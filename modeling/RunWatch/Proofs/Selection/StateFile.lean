import RunWatch.Proofs.Json.Reading
import RunWatch.Selection.StateFile

/-!
# What the state file gives back

A storage is `Dependable` in some of its states if a value written there is found again, and the storage is in
such a state afterwards.  Memory always is; a state file is as long as what it holds can be read and written
back (`StateFile.Sound`), which any file of an object is, as far as its floating-point numbers are
(`StateFile.sound_of_entries`).
-/

namespace RunWatch

open Json (Value Members)

/-- What is written to a storage in a sound state is found there, and the state stays sound. -/
structure Dependable {σ : Type} [SelectionStorage σ] (sound : σ → Prop) : Prop where
  save {s : σ} {value : Value} (key : String) (hs : sound s) (hvalue : value.Legible (Json.nestingLimit - 1))
    (hok : (SelectionStorage.save s key value).outcome = .ok ()) :
    sound (SelectionStorage.save s key value).storage ∧
      SelectionStorage.load (SelectionStorage.save s key value).storage key = .ok (some value)
  remove {s : σ} (key : String) (hs : sound s) (hok : (SelectionStorage.remove s key).outcome = .ok ()) :
    sound (SelectionStorage.remove s key).storage ∧
      SelectionStorage.load (SelectionStorage.remove s key).storage key = .ok none

theorem Memory.dependable : Dependable fun _ : Memory => True where
  save {m value} key _ _ _ := by
    refine ⟨trivial, congrArg Except.ok ?_⟩
    exact (Members.find?_insert key key value m.entries).trans (if_pos rfl)
  remove {m} key _ _ := ⟨trivial, congrArg Except.ok (Members.find?_erase_self key m.entries)⟩

/-- The disk lets the file be read and replaced. -/
def Disk.Serves (d : Disk) : Prop :=
  d.parent = .missing ∨ d.parent = .present ∧ d.target ≠ .directory ∧ d.temp ≠ .directory

theorem Disk.Serves.contents {d : Disk} (h : d.Serves) :
    d.contents = .error .notFound ∨ ∃ bytes, d.contents = .ok bytes := by
  unfold Disk.contents
  obtain hparent | ⟨hparent, htarget, -⟩ := h
  · rw [hparent]
    exact .inl rfl
  · rw [hparent]
    cases ht : d.target with
    | absent => exact .inl rfl
    | file bytes => exact .inr ⟨bytes, rfl⟩
    | directory => exact absurd ht htarget

namespace StateFile

/-! ## The text of a file -/

theorem fromUTF8?_toUTF8 (text : String) : String.fromUTF8? text.toUTF8 = some text :=
  dif_pos text.isValidUTF8

/-- The text of an object is not blank. -/
theorem isBlankText_pretty (ms : Members) : Text.isBlankText (Value.object ms).pretty = false := by
  cases ms <;> simp [Text.isBlankText, Value.pretty, Value.prettyChars, Text.isBlank]

/-- Entries that can be read are found in the bytes that they are written as, with their numbers read again. -/
theorem entriesOfBytes_reread {ms : Members} (h : (Value.object ms).Readable Json.nestingLimit) :
    entriesOfBytes (bytesOfEntries ms) = .ok (Value.rereadMembers ms) := by
  have hutf8 : String.fromUTF8? (bytesOfEntries ms) = some (Value.object ms).pretty :=
    fromUTF8?_toUTF8 (Value.object ms).pretty
  have hmembers : Json.Tree.members? (Value.memberTrees (Value.rereadMembers ms)) = some (Value.rereadMembers ms) :=
    h.ordered_reread.members?_object
  have hread : (Json.read? (Value.object ms).pretty).bind (Json.Codec.members.read .direct) =
      some (Value.rereadMembers ms) := by
    rw [h.read?_pretty, Option.bind_some]
    exact hmembers
  rw [entriesOfBytes, hutf8]
  simp [entriesOfText, isBlankText_pretty, hread]

/-- Entries that can be read back are found again in the bytes that they are written as. -/
theorem entriesOfBytes_bytesOfEntries {ms : Members} (h : (Value.object ms).Legible Json.nestingLimit) :
    entriesOfBytes (bytesOfEntries ms) = .ok ms := by
  rw [entriesOfBytes_reread h.readable, Value.object.inj h.reread]

/-- A file whose entries can be read and written back. -/
def Sound (f : StateFile) : Prop :=
  ∃ ms, f.entries = .ok ms ∧ (Value.object ms).Legible Json.nestingLimit

/-- Whatever file reads as entries, they can be written and read. -/
theorem readable_of_entries {f : StateFile} {ms : Members} (h : f.entries = .ok ms) :
    (Value.object ms).Readable Json.nestingLimit := by
  have hempty : (Value.object []).Readable Json.nestingLimit := .object Members.sorted_nil nofun
  unfold entries entriesOf at h
  split at h
  · unfold entriesOfBytes at h
    split at h
    · unfold entriesOfText at h
      split at h
      · cases h
        exact hempty
      · split at h
        · rename_i hread
          cases h
          obtain ⟨t, ht, hms⟩ := Option.bind_eq_some_iff.mp hread
          cases t with
          | object ts =>
            have hvalue : (Json.Tree.object ts).value? = some (.object ms) :=
              Option.map_eq_some_iff.mpr ⟨ms, hms, rfl⟩
            exact Json.readable_of_read? ht hvalue
          | _ => cases hms
        · cases h
    · cases h
  · cases h
    exact hempty
  · cases h

/-- Whatever file reads as entries is sound, as far as the floating-point numbers in it are. -/
theorem sound_of_entries {f : StateFile} {ms : Members} (h : f.entries = .ok ms)
    (hfloats : ∀ x, (Value.object ms).Carries (.float x) → (Json.Number.float x).Legible) : f.Sound :=
  ⟨ms, h, (readable_of_entries h).legible hfloats⟩

/-! ## Updates -/

/-- An update starts from the entries of the file, or from none if it gives up what the file holds. -/
theorem starting_cases {f : StateFile} {old : Members} {givenUp : Bool}
    (h : startingEntries f.disk.contents = .ok (old, givenUp)) :
    f.entries = .ok old ∧ givenUp = false ∨
      (∃ reason, f.entries = .error (.corrupt reason)) ∧ old = [] ∧ givenUp = true := by
  have hentries : entriesOf f.disk.contents = f.entries := rfl
  unfold startingEntries at h
  rw [hentries] at h
  split at h
  · rename_i hms
    cases h
    exact .inl ⟨hms, rfl⟩
  · rename_i reason hcorrupt
    cases h
    exact .inr ⟨⟨reason, hcorrupt⟩, rfl, rfl⟩
  · cases h

/-- Without a mishap a write is done, and then the file holds the entries, or it fails and leaves the file alone. -/
theorem finish_none (ms : Members) (d : Disk) :
    (finish .none ms d).2 = .done ∧ (finish .none ms d).1.contents = .ok (bytesOfEntries ms) ∨
      ∃ fault, (finish .none ms d).2 = .failed fault ∧ (finish .none ms d).1.contents = d.contents := by
  obtain ⟨parent, target, temp, others⟩ := d
  cases parent with
  | present =>
    cases temp <;> cases target <;>
      simp [finish, write, bind, DiskAction.bind, Disk.makeParent, Disk.writeTemp, Disk.rename, DiskAction.step,
        Mishaps.none, Disk.contents]
  | missing =>
    simp [finish, write, bind, DiskAction.bind, Disk.makeParent, Disk.writeTemp, Disk.rename, DiskAction.step,
      Mishaps.none, Disk.contents]
  | blocked =>
    simp [finish, write, bind, DiskAction.bind, Disk.makeParent, DiskAction.step, Mishaps.none]

/-- Without a mishap an update starts from what the file holds. -/
theorem update_none (change : Members → Bool → Option Members) (d : Disk) :
    update .none change d = match startingEntries d.contents with
      | .error fault => (d, .failed fault)
      | .ok (old, givenUp) =>
        match change old givenUp with
        | some new => finish .none new d
        | none => (d, .done) := by
  have hread : Disk.read .none d = match d.contents with
      | .ok bytes => (d, .ok bytes)
      | .error fault => (d, .failed fault) := by
    cases h : d.contents <;> simp [Disk.read, DiskAction.step, Mishaps.none, h, Except.map]
  rw [update, hread]
  cases d.contents <;> rfl

/-- The file with these entries in it. -/
def replaced (f : StateFile) (ms : Members) : StateFile :=
  { f with disk :=
      { f.disk with parent := .present, target := .file (bytesOfEntries ms), temp := .absent } }

@[simp] theorem contents_replaced (f : StateFile) (ms : Members) :
    (f.replaced ms).disk.contents = .ok (bytesOfEntries ms) := rfl

theorem serves_replaced (f : StateFile) (ms : Members) : (f.replaced ms).disk.Serves :=
  .inr ⟨rfl, nofun, nofun⟩

/-- On a disk that lets it be replaced the file holds the new entries after an update that makes some. -/
theorem written_replaced {f : StateFile} {change : Members → Bool → Option Members} {old new : Members}
    {givenUp : Bool} (hserves : f.disk.Serves) (hstart : startingEntries f.disk.contents = .ok (old, givenUp))
    (hchange : change old givenUp = some new) : f.written change = ⟨f.replaced new, .ok (), f.discardNote⟩ := by
  have hfinish : finish .none new f.disk = ((f.replaced new).disk, .done) := by
    obtain ⟨path, parent, target, temp, others⟩ := f
    obtain hparent | ⟨hparent, htarget, htemp⟩ := hserves
    · obtain rfl : parent = .missing := hparent
      simp [finish, write, bind, DiskAction.bind, Disk.makeParent, Disk.writeTemp, Disk.rename, DiskAction.step,
        Mishaps.none, replaced]
    · obtain rfl : parent = .present := hparent
      cases target <;> cases temp <;>
        simp_all [finish, write, bind, DiskAction.bind, Disk.makeParent, Disk.writeTemp, Disk.rename,
          DiskAction.step, Mishaps.none, replaced]
  have hupdate : update .none change f.disk = ((f.replaced new).disk, .done) := by
    rw [update_none, hstart]
    simp only [hchange, hfinish]
  rw [written, hupdate]
  rfl

/-- An update that cannot start leaves the file as it is. -/
theorem written_refused {f : StateFile} {fault : CacheFault} (hstart : startingEntries f.disk.contents = .error fault)
    (change : Members → Bool → Option Members) : f.written change = ⟨f, .error fault, f.discardNote⟩ := by
  have hupdate : update .none change f.disk = (f.disk, .failed fault) := by
    rw [update_none, hstart]
  rw [written, hupdate]

/-- An update that makes no new entries leaves the file as it is. -/
theorem written_unchanged {f : StateFile} {change : Members → Bool → Option Members} {old : Members}
    {givenUp : Bool} (hstart : startingEntries f.disk.contents = .ok (old, givenUp))
    (hchange : change old givenUp = none) : f.written change = ⟨f, .ok (), f.discardNote⟩ := by
  have hupdate : update .none change f.disk = (f.disk, .done) := by
    rw [update_none, hstart]
    simp only [hchange]
  rw [written, hupdate]

/-- A file of entries after an update that succeeds: it holds the new ones, or is left as it is. -/
theorem entries_written {f : StateFile} {ms : Members} (h : f.entries = .ok ms)
    {change : Members → Bool → Option Members}
    (hchange : ∀ new, change ms false = some new → (Value.object new).Legible Json.nestingLimit)
    (hok : (f.written change).outcome = .ok ()) :
    (f.written change).storage.entries = .ok ((change ms false).getD ms) := by
  have hstart : startingEntries f.disk.contents = .ok (ms, false) := by
    rw [startingEntries, show entriesOf f.disk.contents = .ok ms from h]
  have hupdate := update_none change f.disk
  rw [hstart] at hupdate
  cases hnew : change ms false with
  | none =>
    simp only [hnew] at hupdate
    simp only [written, hupdate, Option.getD_none]
    exact h
  | some new =>
    simp only [hnew] at hupdate
    rcases finish_none new f.disk with ⟨-, hcontents⟩ | ⟨fault, hfailed, -⟩
    · simp only [written, hupdate, Option.getD_some]
      rw [entries, hcontents]
      exact entriesOfBytes_bytesOfEntries (hchange new hnew)
    · simp [written, hupdate, hfailed] at hok

/-- An update that fails leaves the entries of the file as they are. -/
theorem entries_of_failed {f : StateFile} {change : Members → Bool → Option Members} {fault : CacheFault}
    (hfault : (f.written change).outcome = .error fault) : (f.written change).storage.entries = f.entries := by
  have hupdate := update_none change f.disk
  cases hstart : startingEntries f.disk.contents with
  | error fault' =>
    simp only [hstart] at hupdate
    simp only [written, hupdate, entries]
  | ok start =>
    obtain ⟨old, givenUp⟩ := start
    simp only [hstart] at hupdate
    cases hnew : change old givenUp with
    | none =>
      simp only [hnew] at hupdate
      simp only [written, hupdate, entries]
    | some new =>
      simp only [hnew] at hupdate
      rcases finish_none new f.disk with ⟨hdone, -⟩ | ⟨fault', -, hcontents⟩
      · simp [written, hupdate, hdone] at hfault
      · simp only [written, hupdate, entries, hcontents]

theorem legible_insert {ms : Members} (h : (Value.object ms).Legible Json.nestingLimit) (key : String)
    {value : Value} (hvalue : value.Legible (Json.nestingLimit - 1)) :
    (Value.object (ms.insert key value)).Legible Json.nestingLimit := by
  cases h with
  | object hs hms => exact .object (hs.insert key value) (Members.forall_mem_insert hms hvalue)

theorem legible_erase {ms : Members} (h : (Value.object ms).Legible Json.nestingLimit) (key : String) :
    (Value.object (ms.erase key)).Legible Json.nestingLimit := by
  cases h with
  | object hs hms => exact .object (hs.erase key) (Members.forall_mem_erase hms key)

theorem readable_insert {ms : Members} (h : (Value.object ms).Readable Json.nestingLimit) (key : String)
    {value : Value} (hvalue : value.Readable (Json.nestingLimit - 1)) :
    (Value.object (ms.insert key value)).Readable Json.nestingLimit := by
  cases h with
  | object hs hms => exact .object (hs.insert key value) (Members.forall_mem_insert hms hvalue)

theorem readable_erase {ms : Members} (h : (Value.object ms).Readable Json.nestingLimit) (key : String) :
    (Value.object (ms.erase key)).Readable Json.nestingLimit := by
  cases h with
  | object hs hms => exact .object (hs.erase key) (Members.forall_mem_erase hms key)

theorem dependable : Dependable Sound where
  save {f value} key hs hvalue hok := by
    obtain ⟨ms, hms, hlegible⟩ := hs
    have hnew := legible_insert hlegible key hvalue
    have hentries : (f.written (saving key value)).storage.entries = .ok (ms.insert key value) := by
      refine entries_written hms (fun new h => ?_) hok
      obtain rfl := Option.some.inj h
      exact hnew
    refine ⟨⟨_, hentries, hnew⟩, ?_⟩
    change (f.written (saving key value)).storage.entries.map (Members.find? key) = _
    rw [hentries, Except.map, Members.find?_insert, if_pos rfl]
  remove {f} key hs hok := by
    obtain ⟨ms, hms, hlegible⟩ := hs
    change Sound (f.written (removing key)).storage ∧
      (f.written (removing key)).storage.entries.map (Members.find? key) = _
    cases hcontains : ms.contains key with
    | true =>
      have hremoving : removing key ms false = some (ms.erase key) := by simp [removing, hcontains]
      have hentries : (f.written (removing key)).storage.entries = .ok (ms.erase key) := by
        refine (entries_written hms (fun new h => ?_) hok).trans (by rw [hremoving, Option.getD_some])
        obtain rfl := Option.some.inj (hremoving.symm.trans h)
        exact legible_erase hlegible key
      rw [hentries]
      exact ⟨⟨_, hentries, legible_erase hlegible key⟩, congrArg Except.ok (Members.find?_erase_self key ms)⟩
    | false =>
      have hremoving : removing key ms false = none := by simp [removing, hcontains]
      have hentries : (f.written (removing key)).storage.entries = .ok ms := by
        refine (entries_written hms (fun new h => ?_) hok).trans (by rw [hremoving, Option.getD_none])
        cases hremoving.symm.trans h
      rw [hentries]
      exact ⟨⟨_, hentries, hlegible⟩, congrArg Except.ok (Members.find?_eq_none_of_contains hcontains)⟩

end StateFile

end RunWatch
