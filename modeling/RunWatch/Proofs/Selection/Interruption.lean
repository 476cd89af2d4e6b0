import RunWatch.Proofs.Selection.Calls
import RunWatch.Proofs.Selection.StateFile

/-!
# Updates that are cut short

An update of the state file reads it, makes its directory, writes the temporary file and renames that; each of
these steps can fail, and the program can end at each of them.  Only the last one touches the file itself, and
what it puts there has been written completely by then (`write_contents`), so the file holds its old content or
the whole new object (`update_all_or_nothing`).

What is left of the temporary file makes no difference to later calls, however these fare: two disks that differ
in it alone (`Disk.AlikeButTemp`) are told apart by no row of calls (`StateFile.attempts_alike`), because a call
that gets as far as the renaming has written the temporary file anew.
-/

namespace RunWatch

open Json (Value Members)

/-! ## Calls with mishaps -/

/-- What the caller hears of an update, if the program has not ended. -/
def StateFile.Outcome.answer? : StateFile.Outcome → Option StorageAnswer
  | .done => some (.wrote (.ok ()))
  | .failed fault => some (.wrote (.error fault))
  | .ended => none

namespace StateFile

/-- What reading the file comes to, if the program does not end there. -/
def readUnder (ms : Mishaps) (d : Disk) : Option (Except DiskFault ByteArray) :=
  match (Disk.read ms d).2 with
  | .ok bytes => some (.ok bytes)
  | .failed fault => some (.error fault)
  | .ended => none

/-- The file after an update to which mishaps happen, and what the caller hears of it. -/
def updateUnder (ms : Mishaps) (change : Members → Bool → Option Members) (f : StateFile) :
    StateFile × Option StorageAnswer :=
  ({ f with disk := (update ms change f.disk).1 }, (update ms change f.disk).2.answer?)

/-- A call to which mishaps happen: the file afterwards, and the answer if the program has not ended. -/
def attempt (ms : Mishaps) (f : StateFile) : StorageCall → StateFile × Option StorageAnswer
  | .load key => (f, (readUnder ms f.disk).map fun found => .found ((entriesOf found).map (Members.find? key)))
  | .save key value => f.updateUnder ms (saving key value)
  | .remove key => f.updateUnder ms (removing key)

/-- The answers to some calls, each with the mishaps that happen to it.  When the program has ended the next one
goes on with what it finds. -/
def attempts (f : StateFile) : List (Mishaps × StorageCall) → List (Option StorageAnswer)
  | [] => []
  | (ms, call) :: rest => (f.attempt ms call).2 :: (f.attempt ms call).1.attempts rest

/-- The entries that an update starts from: those of the file, or none if it holds something else. -/
def entriesOrNone (f : StateFile) : Members :=
  match f.entries with
  | .ok ms => ms
  | .error _ => []

/-- The file without what has been left of a temporary one. -/
def withoutTemp (f : StateFile) : StateFile :=
  { f with disk := { f.disk with temp := .absent } }

end StateFile

/-! ## The steps of an update -/

/-- The next step is taken on the disk that the first one leaves, unless that one comes to nothing. -/
theorem DiskAction.bind_cases {α β : Type} (a : DiskAction α) (f : α → DiskAction β) (d : Disk) :
    (∃ x, (a d).2 = .ok x ∧ (a >>= f) d = f x (a d).1) ∨
      (∀ x, (a d).2 ≠ .ok x) ∧ ((a >>= f) d).1 = (a d).1 ∧ ∀ y, ((a >>= f) d).2 ≠ .ok y := by
  obtain ⟨d', result, h⟩ : ∃ d' result, a d = (d', result) := ⟨_, _, rfl⟩
  have hbind : (a >>= f) d = DiskAction.bind a f d := rfl
  rw [hbind, DiskAction.bind, h]
  cases result with
  | ok x => exact .inl ⟨x, rfl, rfl⟩
  | failed fault => exact .inr ⟨by simp, rfl, by simp⟩
  | ended => exact .inr ⟨by simp, rfl, by simp⟩

namespace Disk

/-- A step to which a mishap happens does not come to anything. -/
theorem mishap_ne_ok {α : Type} (m : Mishap) (a : α) :
    (if m.ends then DiskResult.ended else .failed .mishap) ≠ .ok a := by
  split <;> nofun

/-- Reading ends the program, or finds what is there unless a mishap keeps it from it; it changes nothing. -/
theorem read_cases (ms : Mishaps) (d : Disk) :
    Disk.read ms d = (d, .ended) ∨ Disk.read ms d = (d, .failed .mishap) ∨
      (∃ bytes, d.contents = .ok bytes ∧ Disk.read ms d = (d, .ok bytes)) ∨
      ∃ fault, d.contents = .error fault ∧ Disk.read ms d = (d, .failed fault) := by
  unfold Disk.read DiskAction.step
  cases ms .read with
  | some m => cases hends : m.ends <;> simp [hends]
  | none => cases hcontents : d.contents <;> simp [hcontents, Except.map]

/-- Making the directory leaves what can be found there as it was. -/
theorem makeParent_contents (ms : Mishaps) (d : Disk) :
    (makeParent ms d).1.contents = d.contents ∧
      ((makeParent ms d).2 = .ok () → (makeParent ms d).1.parent = .present) := by
  obtain ⟨parent, target, temp, others⟩ := d
  unfold makeParent DiskAction.step
  cases ms .makeParent with
  | some m => exact ⟨rfl, fun h => absurd h (mishap_ne_ok m ())⟩
  | none => cases parent <;> exact ⟨rfl, by simp⟩

/-- Writing the temporary file leaves the file itself alone. -/
theorem writeTemp_target (ms : Mishaps) (bytes : ByteArray) (d : Disk) :
    (writeTemp ms bytes d).1.contents = d.contents ∧ (writeTemp ms bytes d).1.parent = d.parent ∧
      ((writeTemp ms bytes d).2 = .ok () → (writeTemp ms bytes d).1.temp = .file bytes) := by
  obtain ⟨parent, target, temp, others⟩ := d
  unfold writeTemp DiskAction.step
  cases ms .writeTemp with
  | some m => exact ⟨rfl, rfl, fun h => absurd h (mishap_ne_ok m ())⟩
  | none => cases parent <;> cases temp <;> exact ⟨rfl, rfl, by simp⟩

/-- The renaming is done completely or not at all. -/
theorem rename_contents (ms : Mishaps) {bytes : ByteArray} {d : Disk} (hparent : d.parent = .present)
    (htemp : d.temp = .file bytes) :
    (rename ms d).2 = .ok () ∧ (rename ms d).1.contents = .ok bytes ∨
      (rename ms d).2 ≠ .ok () ∧ (rename ms d).1.contents = d.contents := by
  obtain ⟨parent, target, temp, others⟩ := d
  subst hparent htemp
  unfold rename DiskAction.step
  cases ms .rename with
  | some m => exact .inr ⟨mishap_ne_ok m (), rfl⟩
  | none => cases target <;> simp [contents]

end Disk

namespace StateFile

/-- However writing the file fares, it comes to the whole new content or leaves the old one. -/
theorem write_contents (ms : Mishaps) (entries : Members) (d : Disk) :
    (write ms entries d).2 = .ok () ∧ (write ms entries d).1.contents = .ok (bytesOfEntries entries) ∨
      (write ms entries d).2 ≠ .ok () ∧ (write ms entries d).1.contents = d.contents := by
  unfold write
  obtain ⟨hkept, hpresent⟩ := Disk.makeParent_contents ms d
  obtain ⟨_, hparent, hnext⟩ | ⟨-, hdisk, hresult⟩ := DiskAction.bind_cases (Disk.makeParent ms) _ d
  · rw [hnext]
    obtain ⟨hkept', hparent', htemp⟩ :=
      Disk.writeTemp_target ms (bytesOfEntries entries) (Disk.makeParent ms d).1
    obtain ⟨_, hwritten, hnext⟩ | ⟨-, hdisk, hresult⟩ :=
      DiskAction.bind_cases (Disk.writeTemp ms (bytesOfEntries entries)) (fun _ => Disk.rename ms)
        (Disk.makeParent ms d).1
    · rw [hnext, ← hkept, ← hkept']
      exact Disk.rename_contents ms (hparent'.trans (hpresent hparent)) (htemp hwritten)
    · exact .inr ⟨hresult (), (congrArg Disk.contents hdisk).trans (hkept'.trans hkept)⟩
  · exact .inr ⟨hresult (), (congrArg Disk.contents hdisk).trans hkept⟩

/-- What can come of an update to which mishaps happen. -/
inductive Updated (change : Members → Bool → Option Members) (d d' : Disk) : Outcome → Prop
  /-- It fails, or the program ends, and the file holds what it held. -/
  | cutShort {outcome : Outcome} (hnot : outcome ≠ .done) (hcontents : d'.contents = d.contents) :
    Updated change d d' outcome
  /-- There is nothing to change. -/
  | unchanged {old : Members} {givenUp : Bool} (hstart : startingEntries d.contents = .ok (old, givenUp))
    (hchange : change old givenUp = none) (hcontents : d'.contents = d.contents) : Updated change d d' .done
  /-- The file holds the new entries. -/
  | replaced {old new : Members} {givenUp : Bool} (hstart : startingEntries d.contents = .ok (old, givenUp))
    (hchange : change old givenUp = some new) (hcontents : d'.contents = .ok (bytesOfEntries new)) :
    Updated change d d' .done

theorem finish_updated (ms : Mishaps) {change : Members → Bool → Option Members} {d : Disk} {old new : Members}
    {givenUp : Bool} (hstart : startingEntries d.contents = .ok (old, givenUp))
    (hchange : change old givenUp = some new) : Updated change d (finish ms new d).1 (finish ms new d).2 := by
  obtain ⟨d', result, h⟩ : ∃ d' result, write ms new d = (d', result) := ⟨_, _, rfl⟩
  have hcontents := write_contents ms new d
  rw [h] at hcontents
  rw [finish, h]
  cases result with
  | ok u =>
    obtain ⟨-, hnew⟩ | ⟨hne, -⟩ := hcontents
    · exact .replaced hstart hchange hnew
    · exact absurd rfl hne
  | failed fault =>
    obtain ⟨heq, -⟩ | ⟨-, hold⟩ := hcontents
    · cases heq
    · exact .cutShort (by simp) hold
  | ended =>
    obtain ⟨heq, -⟩ | ⟨-, hold⟩ := hcontents
    · cases heq
    · exact .cutShort (by simp) hold

theorem Outcome.failed_ne_done (fault : CacheFault) : failed fault ≠ done := by
  simp

theorem updated (ms : Mishaps) (change : Members → Bool → Option Members) (d : Disk) :
    Updated change d (update ms change d).1 (update ms change d).2 := by
  obtain hread | hread | ⟨bytes, hcontents, hread⟩ | ⟨fault, hcontents, hread⟩ := Disk.read_cases ms d
  · rw [update, hread]
    exact .cutShort (by simp) rfl
  · rw [update, hread]
    exact .cutShort (Outcome.failed_ne_done _) rfl
  -- What was read is what the file holds, so both ways lead to the same entries.
  all_goals
    rw [update, hread]
    dsimp only
    rw [← hcontents]
    cases hstart : startingEntries d.contents with
    | error fault => exact .cutShort (by simp) rfl
    | ok start =>
      obtain ⟨old, givenUp⟩ := start
      cases hchange : change old givenUp with
      | none =>
        simp only [hchange]
        exact .unchanged hstart hchange rfl
      | some new =>
        simp only [hchange]
        exact finish_updated ms hstart hchange

end StateFile

/-! ## What is left of a temporary file -/

/-- Two disks that differ in the temporary file alone; a directory in its place stands in both or in neither. -/
structure Disk.AlikeButTemp (d d' : Disk) : Prop where
  parent : d.parent = d'.parent
  target : d.target = d'.target
  others : d.others = d'.others
  directory : d.temp = .directory ↔ d'.temp = .directory

namespace Disk

theorem AlikeButTemp.refl (d : Disk) : d.AlikeButTemp d :=
  ⟨rfl, rfl, rfl, Iff.rfl⟩

theorem AlikeButTemp.eq_of_temp {d d' : Disk} (h : d.AlikeButTemp d') (htemp : d.temp = d'.temp) : d = d' := by
  obtain ⟨parent, target, temp, others⟩ := d
  obtain ⟨rfl, rfl, rfl, -⟩ := h
  exact congrArg (Disk.mk _ _ · _) htemp

theorem AlikeButTemp.contents {d d' : Disk} (h : d.AlikeButTemp d') : d.contents = d'.contents := by
  unfold Disk.contents
  rw [h.parent, h.target]

end Disk

/-- An action that comes to the same on two disks, which differ in the temporary file alone afterwards too. -/
def DiskAction.AgreesOn {α : Type} (a : DiskAction α) (d d' : Disk) : Prop :=
  (a d).2 = (a d').2 ∧ (a d).1.AlikeButTemp (a d').1

theorem DiskAction.AgreesOn.refl {α : Type} (a : DiskAction α) (d : Disk) : a.AgreesOn d d :=
  ⟨rfl, .refl _⟩

theorem DiskAction.AgreesOn.bind {α β : Type} {a : DiskAction α} {f : α → DiskAction β} {d d' : Disk}
    (ha : a.AgreesOn d d') (hf : ∀ x, (a d).2 = .ok x → (a d').2 = .ok x → (f x).AgreesOn (a d).1 (a d').1) :
    (a >>= f).AgreesOn d d' := by
  obtain ⟨hresult, hdisk⟩ := ha
  have hbind (d : Disk) : (a >>= f) d = DiskAction.bind a f d := rfl
  obtain ⟨e, r, he⟩ : ∃ e r, a d = (e, r) := ⟨_, _, rfl⟩
  obtain ⟨e', r', he'⟩ : ∃ e r, a d' = (e, r) := ⟨_, _, rfl⟩
  rw [he, he'] at hresult hdisk hf
  obtain rfl : r = r' := hresult
  rw [AgreesOn, hbind, hbind, DiskAction.bind, DiskAction.bind, he, he']
  cases r with
  | ok x => exact hf x rfl rfl
  | failed fault => exact ⟨rfl, hdisk⟩
  | ended => exact ⟨rfl, hdisk⟩

/-- A step agrees on two disks if what it does does and if a mishap spoils them alike. -/
theorem DiskAction.AgreesOn.step {α : Type} {mishap : Option Mishap} {spoil : Mishap → Disk → Disk}
    {act : Disk → Except DiskFault (Disk × α)} {d d' : Disk}
    (hspoil : ∀ m, (spoil m d).AlikeButTemp (spoil m d'))
    (hact : (∃ fault, d.AlikeButTemp d' ∧ act d = .error fault ∧ act d' = .error fault) ∨
      ∃ e e' x, e.AlikeButTemp e' ∧ act d = .ok (e, x) ∧ act d' = .ok (e', x)) :
    (DiskAction.step mishap spoil act).AgreesOn d d' := by
  unfold AgreesOn DiskAction.step
  cases mishap with
  | some m => exact ⟨rfl, hspoil m⟩
  | none =>
    obtain ⟨fault, h, hd, hd'⟩ | ⟨e, e', x, h, hd, hd'⟩ := hact
    · simpa only [hd, hd', true_and] using h
    · simpa only [hd, hd', true_and] using h

namespace Disk.AlikeButTemp

variable {d d' : Disk}

theorem read (h : d.AlikeButTemp d') (ms : Mishaps) : (Disk.read ms).AgreesOn d d' := by
  refine .step (fun _ => h) ?_
  rw [h.contents]
  cases d'.contents with
  | ok bytes => exact .inr ⟨d, d', bytes, h, rfl, rfl⟩
  | error fault => exact .inl ⟨fault, h, rfl, rfl⟩

theorem makeParent (h : d.AlikeButTemp d') (ms : Mishaps) : (Disk.makeParent ms).AgreesOn d d' := by
  refine .step (fun _ => h) ?_
  rw [h.parent]
  cases d'.parent with
  | present => exact .inr ⟨d, d', (), h, rfl, rfl⟩
  | missing =>
    exact .inr ⟨{ d with parent := .present, target := .absent, temp := .absent },
      { d' with parent := .present, target := .absent, temp := .absent }, (), ⟨rfl, rfl, h.others, Iff.rfl⟩, rfl, rfl⟩
  | blocked => exact .inl ⟨.notADirectory, h, rfl, rfl⟩

theorem writeTemp (h : d.AlikeButTemp d') (ms : Mishaps) (bytes : ByteArray) :
    (Disk.writeTemp ms bytes).AgreesOn d d' := by
  refine .step (fun m => ⟨h.parent, h.target, h.others, Iff.rfl⟩) ?_
  cases hparent' : d'.parent with
  | missing =>
    rw [h.parent, hparent']
    exact .inl ⟨.notFound, h, rfl, rfl⟩
  | blocked =>
    rw [h.parent, hparent']
    exact .inl ⟨.notADirectory, h, rfl, rfl⟩
  | present =>
    have hparent : d.parent = .present := h.parent.trans hparent'
    by_cases htemp : d.temp = .directory
    · rw [hparent, htemp, h.directory.mp htemp]
      exact .inl ⟨.isADirectory, h, rfl, rfl⟩
    · have htemp' : d'.temp ≠ .directory := mt h.directory.mpr htemp
      refine .inr ⟨{ d with temp := .file bytes }, { d' with temp := .file bytes }, (),
        ⟨h.parent, h.target, h.others, Iff.rfl⟩, ?_, ?_⟩
      · rw [hparent]
        cases hd : d.temp with
        | directory => exact absurd hd htemp
        | _ => rfl
      · rw [hparent']
        cases hd' : d'.temp with
        | directory => exact absurd hd' htemp'
        | _ => rfl

/-- Once the temporary file has been written anew nothing is left to differ in. -/
theorem write (h : d.AlikeButTemp d') (ms : Mishaps) (entries : Members) :
    (StateFile.write ms entries).AgreesOn d d' := by
  refine (h.makeParent ms).bind fun _ _ _ => ?_
  have h := (h.makeParent ms).2
  refine (h.writeTemp ms _).bind fun _ hd hd' => ?_
  have htemp := (Disk.writeTemp_target ms (StateFile.bytesOfEntries entries) (Disk.makeParent ms d).1).2.2 hd
  have htemp' := (Disk.writeTemp_target ms (StateFile.bytesOfEntries entries) (Disk.makeParent ms d').1).2.2 hd'
  rw [(h.writeTemp ms _).2.eq_of_temp (htemp.trans htemp'.symm)]
  exact .refl _ _

end Disk.AlikeButTemp

namespace Disk

/-- What all steps keep, a row of them keeps. -/
theorem bind_keeps {α β : Type} {P : Disk → Prop} {a : DiskAction α} {f : α → DiskAction β} {d : Disk}
    (ha : P (a d).1) (hf : ∀ x, P (f x (a d).1).1) : P ((a >>= f) d).1 := by
  obtain ⟨x, -, h⟩ | ⟨-, h, -⟩ := DiskAction.bind_cases a f d
  · rw [h]
    exact hf x
  · rw [h]
    exact ha

theorem makeParent_temp (ms : Mishaps) {d : Disk} (h : d.temp ≠ .directory) :
    (makeParent ms d).1.temp ≠ .directory := by
  unfold makeParent DiskAction.step
  cases ms .makeParent with
  | some m => exact h
  | none => cases hparent : d.parent <;> simp [hparent, h]

theorem writeTemp_temp {ms : Mishaps} (hleft : ∀ m, ms .writeTemp = some m → m.left ≠ .directory)
    (bytes : ByteArray) {d : Disk} (h : d.temp ≠ .directory) : (writeTemp ms bytes d).1.temp ≠ .directory := by
  unfold writeTemp DiskAction.step
  cases hm : ms .writeTemp with
  | some m => exact hleft m hm
  | none => cases hparent : d.parent <;> cases htemp : d.temp <;> simp_all

theorem rename_temp (ms : Mishaps) {d : Disk} (h : d.temp ≠ .directory) : (rename ms d).1.temp ≠ .directory := by
  unfold rename DiskAction.step
  cases ms .rename with
  | some m => exact h
  | none => cases htemp : d.temp <;> cases htarget : d.target <;> simp_all

/-- Writing the file leaves no directory in the place of the temporary one. -/
theorem write_temp {ms : Mishaps} (hleft : ∀ m, ms .writeTemp = some m → m.left ≠ .directory)
    (entries : Members) {d : Disk} (h : d.temp ≠ .directory) :
    (StateFile.write ms entries d).1.temp ≠ .directory := by
  have hparent := makeParent_temp ms h
  have htemp := writeTemp_temp hleft (StateFile.bytesOfEntries entries) hparent
  exact bind_keeps (P := fun d => d.temp ≠ .directory) hparent fun _ =>
    bind_keeps (P := fun d => d.temp ≠ .directory) htemp fun _ => rename_temp ms htemp

end Disk

namespace StateFile

theorem finish_alike {d d' : Disk} (h : d.AlikeButTemp d') (ms : Mishaps) (entries : Members) :
    (finish ms entries d).2 = (finish ms entries d').2 ∧
      (finish ms entries d).1.AlikeButTemp (finish ms entries d').1 := by
  obtain ⟨hresult, hdisk⟩ := h.write ms entries
  obtain ⟨e, r, he⟩ : ∃ e r, write ms entries d = (e, r) := ⟨_, _, rfl⟩
  obtain ⟨e', r', he'⟩ : ∃ e r, write ms entries d' = (e, r) := ⟨_, _, rfl⟩
  rw [he, he'] at hresult hdisk
  obtain rfl : r = r' := hresult
  rw [finish, finish, he, he']
  cases r <;> exact ⟨rfl, hdisk⟩

theorem update_alike {d d' : Disk} (h : d.AlikeButTemp d') (ms : Mishaps)
    (change : Members → Bool → Option Members) :
    (update ms change d).2 = (update ms change d').2 ∧
      (update ms change d).1.AlikeButTemp (update ms change d').1 := by
  obtain ⟨hresult, hdisk⟩ := h.read ms
  obtain ⟨e, r, he⟩ : ∃ e r, Disk.read ms d = (e, r) := ⟨_, _, rfl⟩
  obtain ⟨e', r', he'⟩ : ∃ e r, Disk.read ms d' = (e, r) := ⟨_, _, rfl⟩
  rw [he, he'] at hresult hdisk
  obtain rfl : r = r' := hresult
  rw [update, update, he, he']
  cases r with
  | ended => exact ⟨rfl, hdisk⟩
  | _ =>
    dsimp only
    split
    · exact ⟨rfl, hdisk⟩
    · split
      · exact finish_alike hdisk ms _
      · exact ⟨rfl, hdisk⟩

/-- A call tells two files that differ in what is left of a temporary one not apart, and leaves them so. -/
theorem attempt_alike {f f' : StateFile} (h : f.disk.AlikeButTemp f'.disk) (ms : Mishaps)
    (call : StorageCall) :
    (f.attempt ms call).2 = (f'.attempt ms call).2 ∧
      (f.attempt ms call).1.disk.AlikeButTemp (f'.attempt ms call).1.disk := by
  cases call with
  | load key =>
    refine ⟨?_, h⟩
    simp only [attempt, readUnder, (h.read ms).1]
  | save key value =>
    obtain ⟨houtcome, hdisk⟩ := update_alike h ms (saving key value)
    exact ⟨congrArg Outcome.answer? houtcome, hdisk⟩
  | remove key =>
    obtain ⟨houtcome, hdisk⟩ := update_alike h ms (removing key)
    exact ⟨congrArg Outcome.answer? houtcome, hdisk⟩

/-- No row of calls tells them apart, whatever mishaps happen to it. -/
theorem attempts_alike {f f' : StateFile} (h : f.disk.AlikeButTemp f'.disk) (calls : List (Mishaps × StorageCall)) :
    f.attempts calls = f'.attempts calls := by
  induction calls generalizing f f' with
  | nil => rfl
  | cons c calls ih =>
    obtain ⟨ms, call⟩ := c
    obtain ⟨hanswer, hdisk⟩ := attempt_alike h ms call
    rw [attempts, attempts, hanswer, ih hdisk]

/-- A call leaves no directory in the place of the temporary file. -/
theorem update_temp {ms : Mishaps} (hleft : ∀ m, ms .writeTemp = some m → m.left ≠ .directory)
    (change : Members → Bool → Option Members) {d : Disk} (htemp : d.temp ≠ .directory) :
    (update ms change d).1.temp ≠ .directory := by
  have hfinish (new : Members) : (finish ms new d).1.temp ≠ .directory := by
    obtain ⟨e, r, he⟩ : ∃ e r, write ms new d = (e, r) := ⟨_, _, rfl⟩
    have hwrite := Disk.write_temp hleft new htemp
    rw [he] at hwrite
    rw [finish, he]
    cases r <;> exact hwrite
  obtain hread | hread | ⟨bytes, hcontents, hread⟩ | ⟨fault, hcontents, hread⟩ := Disk.read_cases ms d
  all_goals rw [update, hread]
  · exact htemp
  all_goals
    dsimp only
    split
    · exact htemp
    · split
      · exact hfinish _
      · exact htemp

/-! ## Main statement -/

theorem entriesOrNone_of_starting {f : StateFile} {old : Members} {givenUp : Bool}
    (h : startingEntries f.disk.contents = .ok (old, givenUp)) :
    f.entriesOrNone = old ∧ (givenUp = false → f.entries = .ok old) := by
  unfold entriesOrNone
  obtain ⟨hentries, rfl⟩ | ⟨⟨reason, hcorrupt⟩, rfl, rfl⟩ := starting_cases h
  · rw [hentries]
    exact ⟨rfl, fun _ => rfl⟩
  · rw [hcorrupt]
    exact ⟨rfl, nofun⟩

/-- What an update does in the way a call asks for it: it revises the entries, unless that changes nothing. -/
structure Revises (change : Members → Bool → Option Members) (call : StorageCall) : Prop where
  some {old new : Members} {givenUp : Bool} (h : change old givenUp = some new) : new = call.revise old
  none {old : Members} {givenUp : Bool} (h : change old givenUp = none) : givenUp = false ∧ call.revise old = old

theorem revises_saving (key : String) (value : Value) : Revises (saving key value) (.save key value) where
  some h := (Option.some.inj h).symm
  none h := nomatch h

theorem revises_removing (key : String) : Revises (removing key) (.remove key) where
  some {old new givenUp} h := by
    unfold removing at h
    split at h
    · exact (Option.some.inj h).symm
    · cases h
  none {old givenUp} h := by
    unfold removing at h
    split at h
    · cases h
    · rename_i hkeep
      rw [Bool.or_eq_true, not_or, Bool.not_eq_true, Bool.not_eq_true] at hkeep
      exact ⟨hkeep.2, Members.erase_eq_self hkeep.1⟩

/-- An update that has come to an answer: the file holds the whole revised object, or it holds what it held. -/
theorem Updated.contents {change : Members → Bool → Option Members} {call : StorageCall}
    (hcall : Revises change call) {f : StateFile} {d : Disk} {outcome : Outcome} (h : Updated change f.disk d outcome) :
    d.contents = f.disk.contents ∧ (outcome = .done → f.entries = .ok (call.revise f.entriesOrNone)) ∨
      d.contents = .ok (bytesOfEntries (call.revise f.entriesOrNone)) ∧ outcome = .done := by
  cases h with
  | cutShort hnot hcontents => exact .inl ⟨hcontents, fun h => absurd h hnot⟩
  | unchanged hstart hchange hcontents =>
    obtain ⟨hnot, hsame⟩ := hcall.none hchange
    obtain ⟨hold, hentries⟩ := entriesOrNone_of_starting hstart
    exact .inl ⟨hcontents, fun _ => by rw [hold, hsame, hentries hnot]⟩
  | replaced hstart hchange hcontents =>
    obtain ⟨hold, -⟩ := entriesOrNone_of_starting hstart
    rw [hcall.some hchange] at hcontents
    exact .inr ⟨by rw [hold, hcontents], rfl⟩

/-- The file after an update to which mishaps happen differs from one without leftovers in nothing that calls see. -/
theorem attempt_alike_withoutTemp {f : StateFile} (htemp : f.disk.temp ≠ .directory) {ms : Mishaps}
    (hleft : ∀ m, ms .writeTemp = some m → m.left ≠ .directory) (call : StorageCall) :
    (f.attempt ms call).1.disk.AlikeButTemp (f.attempt ms call).1.withoutTemp.disk := by
  have hattempt : (f.attempt ms call).1.disk.temp ≠ .directory := by
    cases call with
    | load key => exact htemp
    | save key value => exact update_temp hleft (saving key value) htemp
    | remove key => exact update_temp hleft (removing key) htemp
  exact ⟨rfl, rfl, rfl, iff_of_false hattempt nofun⟩

theorem attempt_contents (f : StateFile) (ms : Mishaps) (call : StorageCall) :
    (f.attempt ms call).1.disk.contents = f.disk.contents ∧
        ((f.attempt ms call).2 = some (.wrote (.ok ())) → f.entries = .ok (call.revise f.entriesOrNone)) ∨
      (f.attempt ms call).1.disk.contents = .ok (bytesOfEntries (call.revise f.entriesOrNone)) ∧
        (f.attempt ms call).2 = some (.wrote (.ok ())) := by
  have hupdate {change : Members → Bool → Option Members} (hcall : Revises change call) :
      (f.updateUnder ms change).1.disk.contents = f.disk.contents ∧
          ((f.updateUnder ms change).2 = some (.wrote (.ok ())) → f.entries = .ok (call.revise f.entriesOrNone)) ∨
        (f.updateUnder ms change).1.disk.contents = .ok (bytesOfEntries (call.revise f.entriesOrNone)) ∧
          (f.updateUnder ms change).2 = some (.wrote (.ok ())) := by
    obtain ⟨hold, hdone⟩ | ⟨hnew, hdone⟩ := (updated ms change f.disk).contents hcall
    · refine .inl ⟨hold, fun h => hdone ?_⟩
      unfold updateUnder at h
      cases houtcome : (update ms change f.disk).2 with
      | done => rfl
      | failed fault => simp [houtcome, Outcome.answer?] at h
      | ended => simp [houtcome, Outcome.answer?] at h
    · exact .inr ⟨hnew, by rw [updateUnder, hdone]; rfl⟩
  cases call with
  | load key =>
    refine .inl ⟨rfl, fun h => ?_⟩
    obtain ⟨found, -, h⟩ := Option.map_eq_some_iff.mp h
    cases h
  | save key value => exact hupdate (revises_saving key value)
  | remove key => exact hupdate (revises_removing key)

theorem readUnder_none (d : Disk) : readUnder .none d = some d.contents := by
  unfold readUnder Disk.read DiskAction.step
  cases h : d.contents <;> simp [Mishaps.none, h, Except.map]

theorem update_none_ne_ended (change : Members → Bool → Option Members) (d : Disk) :
    (update .none change d).2 ≠ .ended := by
  rw [update_none]
  split
  · nofun
  · split
    · rename_i new _
      obtain ⟨h, -⟩ | ⟨fault, h, -⟩ := finish_none new d <;> rw [h] <;> nofun
    · nofun

/-- Without mishaps an attempt is the call itself. -/
theorem attempt_none (f : StateFile) (call : StorageCall) :
    f.attempt .none call = ((call.run f).1, some (call.run f).2) := by
  have hupdate (change : Members → Bool → Option Members) :
      f.updateUnder .none change = ((f.written change).storage, some (.wrote (f.written change).outcome)) := by
    have hended := update_none_ne_ended change f.disk
    obtain ⟨d, outcome, h⟩ : ∃ d outcome, update .none change f.disk = (d, outcome) := ⟨_, _, rfl⟩
    rw [h] at hended
    rw [updateUnder, written, h]
    cases outcome with
    | ended => exact absurd rfl hended
    | _ => rfl
  cases call with
  | load key =>
    rw [attempt, readUnder_none]
    rfl
  | save key value => exact hupdate (saving key value)
  | remove key => exact hupdate (removing key)

/-- An update of the state file is all or nothing.  Whatever it fails at and wherever the program ends, the file
holds its old content or the whole revised object; if the caller hears of a failure it is the old one, and if the
caller hears of success it is the new one, or the old one says the same already.  What is left of a temporary file
makes no difference to the calls that follow. -/
theorem update_all_or_nothing (f : StateFile) (ms : Mishaps) (call : StorageCall) :
    let g := (f.attempt ms call).1
    let answer := (f.attempt ms call).2
    let revised := call.revise f.entriesOrNone
    f.attempt .none call = ((call.run f).1, some (call.run f).2) ∧
    (g.disk.contents = f.disk.contents ∨ g.disk.contents = .ok (bytesOfEntries revised)) ∧
    (∀ fault, answer = some (.wrote (.error fault)) → g.disk.contents = f.disk.contents ∧
      ∀ key, SelectionStorage.load g key = SelectionStorage.load f key) ∧
    (answer = some (.wrote (.ok ())) → g.disk.contents = .ok (bytesOfEntries revised) ∨
      g.disk.contents = f.disk.contents ∧ f.entries = .ok revised) ∧
    (f.disk.temp ≠ .directory → (∀ m, ms .writeTemp = some m → m.left ≠ .directory) →
      ∀ later, g.attempts later = g.withoutTemp.attempts later) := by
  intro g answer revised
  refine ⟨f.attempt_none call, ?_, ?_, ?_, fun htemp hleft later => ?_⟩
  · exact (f.attempt_contents ms call).imp And.left And.left
  · intro fault hfault
    obtain ⟨hold, -⟩ | ⟨-, hdone⟩ := f.attempt_contents ms call
    · refine ⟨hold, fun key => ?_⟩
      change (entriesOf g.disk.contents).map _ = (entriesOf f.disk.contents).map _
      rw [hold]
    · cases hfault.symm.trans hdone
  · intro hdone
    obtain ⟨hold, hsame⟩ | ⟨hnew, -⟩ := f.attempt_contents ms call
    · exact .inr ⟨hold, hsame hdone⟩
    · exact .inl hnew
  · exact attempts_alike (attempt_alike_withoutTemp htemp hleft call) later

/-- Writing the temporary file fails half-way: the file keeps its old content, and what is left is no obstacle. -/
theorem half_written_temp_ignored :
    let f : StateFile := ⟨"state.json", ⟨.present, .file "\x7b\"a\":true\x7d".toUTF8, .absent, []⟩⟩
    let half : Mishap := ⟨false, .file "\x7b\n  \"a".toUTF8⟩
    let ms : Mishaps := fun step => if step = .writeTemp then some half else none
    let g := (f.attempt ms (.save "b" .null)).1
    g.disk.contents = f.disk.contents ∧
      (∀ key, SelectionStorage.load g key = SelectionStorage.load f key) ∧
      (g.disk.temp.data? = half.left.data? ∧ ∀ later, g.attempts later = g.withoutTemp.attempts later) ∧
      (f.attempt .none (.remove "a")).1.disk.contents = .ok (bytesOfEntries []) := by
  intro f half ms g
  obtain ⟨-, -, hfailed, -, hleft⟩ := update_all_or_nothing f ms (.save "b" .null)
  obtain ⟨hcontents, hload⟩ := hfailed (.storage DiskFault.mishap.message) (by decide +kernel)
  refine ⟨hcontents, hload, ⟨by decide +kernel, hleft nofun ?_⟩, ?_⟩
  · rintro m hm
    obtain rfl : half = m := Option.some.inj hm
    nofun
  · obtain ⟨-, -, -, hdone, -⟩ := update_all_or_nothing f .none (.remove "a")
    have hrevised : (StorageCall.remove "a").revise f.entriesOrNone = [] := by decide +kernel
    rw [hrevised] at hdone
    obtain hnew | ⟨-, hsame⟩ := hdone (by decide +kernel)
    · exact hnew
    · exact absurd hsame (by decide +kernel)

end StateFile

end RunWatch
