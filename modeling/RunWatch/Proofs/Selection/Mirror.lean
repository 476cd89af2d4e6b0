import RunWatch.Proofs.Selection.Calls
import RunWatch.Proofs.Selection.StateFile

/-!
# The state file as a memory

A state file that is missing, blank or a JSON object does what a memory with the same entries does
(`StateFile.mirrors_memory`): it gives the same answer to every call of any row of calls, and holds the same
entries afterwards.  That takes a disk that lets the file be read and replaced (`Disk.Serves`) and numbers that are
read back from what they are written as, which all integers are.

The invariant is `StateFile.Mirrors`, and a call keeps it (`StateFile.Mirrors.run`).
-/

namespace RunWatch

open Json (Value Members)

/-! ## Files of entries -/

/-- No JSON text is blank. -/
theorem Json.read?_of_isBlankText {text : String} (h : Text.isBlankText text = true) : Json.read? text = none := by
  have hvalue (fuel levels : Nat) : Json.readValue fuel levels text.toList = none := by
    cases fuel with
    | zero => rfl
    | succ fuel =>
      cases hskip : Json.skipGaps text.toList with
      | nil => simp [Json.readValue, hskip]
      | cons c r =>
        have hc : c ∈ text.toList := (List.dropWhile_sublist _).subset (hskip ▸ List.mem_cons_self)
        have hblank : Text.isBlank c = true := List.all_eq_true.mp h c hc
        have hmarks : c ∉ ['"', '[', '{', '-', 't', 'f', 'n'] := by
          simp only [List.mem_cons, List.not_mem_nil, or_false]
          rintro (rfl | rfl | rfl | rfl | rfl | rfl | rfl) <;> cases hblank
        have hzero : c ≠ '0' := by
          rintro rfl
          cases hblank
        have hdigit : Text.digit? c = none := by
          refine if_neg ?_
          rintro ⟨hle, hge⟩
          have hle : '0'.toNat ≤ c.toNat := hle
          have hge : c.toNat ≤ '9'.toNat := hge
          simp [Text.isBlank] at hblank hle hge
          omega
        rw [Json.readValue_unmarked hskip hmarks]
        simp [Json.readNumber, Json.readNumeral, Json.readWhole, hzero, Text.spanDigits, hdigit]
  rw [Json.read?, Json.readChars?, hvalue]
  rfl

namespace StateFile

/-- A state file that is missing, blank or a JSON object, and the entries that it stands for. -/
inductive Holds (f : StateFile) : Members → Prop
  | missing (h : f.disk.contents = .error .notFound) : Holds f []
  | blank {text : String} (h : f.disk.contents = .ok text.toUTF8) (hblank : Text.isBlankText text = true) :
    Holds f []
  | object {text : String} {t : Json.Tree} {ms : Members} (h : f.disk.contents = .ok text.toUTF8)
    (hread : Json.read? text = some t) (hvalue : t.value? = some (.object ms)) : Holds f ms

theorem Holds.entries {f : StateFile} {ms : Members} (h : f.Holds ms) : f.entries = .ok ms := by
  unfold StateFile.entries
  cases h with
  | missing h =>
    rw [h]
    rfl
  | blank h hblank =>
    rw [h, entriesOf, entriesOfBytes, fromUTF8?_toUTF8]
    exact if_pos hblank
  | @object text t ms h hread hvalue =>
    have hblank : Text.isBlankText text ≠ true := fun hblank => by
      rw [Json.read?_of_isBlankText hblank] at hread
      cases hread
    have hmembers : Json.Codec.members.read .direct t = some ms := by
      cases t with
      | object ts =>
        obtain ⟨_, hms, heq⟩ := Option.map_eq_some_iff.mp hvalue
        cases heq
        exact hms
      | array ts =>
        obtain ⟨_, -, heq⟩ := Option.map_eq_some_iff.mp hvalue
        cases heq
      | _ => cases hvalue
    rw [h, entriesOf, entriesOfBytes, fromUTF8?_toUTF8]
    dsimp only
    rw [entriesOfText, if_neg hblank, hread, Option.bind_some, hmembers]

/-! ## One call -/

/-- A file of entries that are those of a memory, on a disk that lets it be read and replaced. -/
structure Mirrors (f : StateFile) (m : Memory) : Prop where
  entries : f.entries = .ok m.entries
  legible : (Value.object m.entries).Legible Json.nestingLimit
  serves : f.disk.Serves

theorem Mirrors.starting {f : StateFile} {m : Memory} (h : f.Mirrors m) :
    startingEntries f.disk.contents = .ok (m.entries, false) := by
  have hentries : entriesOf f.disk.contents = .ok m.entries := h.entries
  rw [startingEntries, hentries]

/-- A file in which entries have been written that can be read back. -/
theorem mirrors_replaced (f : StateFile) {ms : Members} (h : (Value.object ms).Legible Json.nestingLimit) :
    (f.replaced ms).Mirrors ⟨ms⟩ := by
  refine ⟨?_, h, serves_replaced f ms⟩
  rw [StateFile.entries, contents_replaced]
  exact entriesOfBytes_bytesOfEntries h

/-- A call has the same answer from both, and leaves the file with the entries of the memory. -/
theorem Mirrors.run {f : StateFile} {m : Memory} (h : f.Mirrors m) {call : StorageCall}
    (hvalue : ∀ key value, call = .save key value → value.Legible (Json.nestingLimit - 1)) :
    (call.run f).2 = (call.run m).2 ∧ (call.run f).1.Mirrors (call.run m).1 := by
  cases call with
  | load key =>
    refine ⟨?_, h⟩
    change StorageAnswer.found (f.entries.map _) = _
    rw [h.entries]
    rfl
  | save key value =>
    have hwritten : f.written (saving key value) = ⟨f.replaced (m.entries.insert key value), .ok (), f.discardNote⟩ :=
      written_replaced h.serves h.starting rfl
    change StorageAnswer.wrote (f.written (saving key value)).outcome = .wrote (.ok ()) ∧
      (f.written (saving key value)).storage.Mirrors ⟨m.entries.insert key value⟩
    rw [hwritten]
    exact ⟨rfl, mirrors_replaced f (legible_insert h.legible key (hvalue key value rfl))⟩
  | remove key =>
    change StorageAnswer.wrote (f.written (removing key)).outcome = .wrote (.ok ()) ∧
      (f.written (removing key)).storage.Mirrors ⟨m.entries.erase key⟩
    cases hcontains : m.entries.contains key with
    | true =>
      have hwritten : f.written (removing key) = ⟨f.replaced (m.entries.erase key), .ok (), f.discardNote⟩ :=
        written_replaced h.serves h.starting (by simp [removing, hcontains])
      rw [hwritten]
      exact ⟨rfl, mirrors_replaced f (legible_erase h.legible key)⟩
    | false =>
      rw [written_unchanged h.starting (by simp [removing, hcontains]), Members.erase_eq_self hcontains]
      exact ⟨rfl, h⟩

theorem Mirrors.load {f : StateFile} {m : Memory} (h : f.Mirrors m) (key : String) :
    SelectionStorage.load f key = .ok (m.entries.find? key) := by
  change f.entries.map _ = _
  rw [h.entries]
  rfl

/-- A key that a memory does not have is removed from the file by leaving it as it is. -/
theorem Mirrors.remove_absent {f : StateFile} {m : Memory} (h : f.Mirrors m) {key : String}
    (habsent : m.entries.contains key = false) : ((StorageCall.remove key).run f).1 = f := by
  change (f.written (removing key)).storage = f
  rw [written_unchanged h.starting (by simp [removing, habsent])]

end StateFile

/-! ## Rows of calls -/

/-- A call is about its own key. -/
theorem StorageCall.find?_run {call : StorageCall} {key : String} (h : key ≠ call.key) (m : Memory) :
    (call.run m).1.entries.find? key = m.entries.find? key := by
  cases call with
  | load _ => rfl
  | save _ value => exact (Members.find?_insert _ key value m.entries).trans (if_neg (Ne.symm h))
  | remove _ => exact Members.find?_erase_of_ne h m.entries

namespace StateFile

/-- Values that can be read back from below the braces of the file. -/
def Legible (calls : List StorageCall) : Prop :=
  ∀ key value, .save key value ∈ calls → value.Legible (Json.nestingLimit - 1)

theorem Mirrors.after {f : StateFile} {m : Memory} (h : f.Mirrors m) {calls : List StorageCall}
    (hvalues : Legible calls) :
    StorageCall.answers f calls = StorageCall.answers m calls ∧
      (StorageCall.after f calls).Mirrors (StorageCall.after m calls) := by
  induction calls generalizing f m with
  | nil => exact ⟨rfl, h⟩
  | cons call calls ih =>
    have hvalue : ∀ key value, call = .save key value → value.Legible (Json.nestingLimit - 1) :=
      fun key value heq => hvalues key value (heq ▸ List.mem_cons_self)
    obtain ⟨hanswer, hrun⟩ := h.run hvalue
    obtain ⟨hanswers, hafter⟩ := ih hrun fun key value hmem => hvalues key value (List.mem_cons_of_mem _ hmem)
    refine ⟨?_, hafter⟩
    rw [StorageCall.answers, StorageCall.answers, hanswer, hanswers]

/-- A state file on a disk that lets it be read and replaced does what a memory of its entries does: over every row
of calls the answers are the same, and so are the entries afterwards.  On the way no call touches the value of
another key, and loading, or removing a key that is not there, leaves the file as it is. -/
theorem mirrors_memory {f : StateFile} {ms : Members} (hholds : f.Holds ms)
    (hfloats : ∀ x, (Value.object ms).Carries (.float x) → (Json.Number.float x).Legible)
    (hserves : f.disk.Serves) {calls : List StorageCall} (hvalues : Legible calls) :
    StorageCall.answers f calls = StorageCall.answers (Memory.mk ms) calls ∧
    (StorageCall.after f calls).entries = .ok (StorageCall.after (Memory.mk ms) calls).entries ∧
    ∀ done call rest, calls = done ++ call :: rest →
      let g := StorageCall.after f done
      let g' := (call.run g).1
      (∀ key, call = .load key → g' = g) ∧
      (∀ key, call = .remove key → SelectionStorage.load g key = .ok none → g' = g) ∧
      ∀ key, key ≠ call.key → SelectionStorage.load g' key = SelectionStorage.load g key := by
  have hstart : f.Mirrors ⟨ms⟩ := by
    obtain ⟨ms', hentries, hlegible⟩ := sound_of_entries hholds.entries hfloats
    cases hholds.entries.symm.trans hentries
    exact ⟨hentries, hlegible, hserves⟩
  obtain ⟨hanswers, hafter⟩ := hstart.after hvalues
  refine ⟨hanswers, hafter.entries, ?_⟩
  rintro done call rest rfl g g'
  have hmirrors : g.Mirrors (StorageCall.after ⟨ms⟩ done) :=
    (hstart.after fun key value hmem => hvalues key value (List.mem_append_left _ hmem)).2
  have hmirrors' : g'.Mirrors (call.run (StorageCall.after ⟨ms⟩ done)).1 :=
    (hmirrors.run fun key value heq => hvalues key value (by simp [heq])).2
  refine ⟨?_, ?_, fun key hkey => ?_⟩
  · rintro key rfl
    rfl
  · rintro key rfl habsent
    rw [hmirrors.load] at habsent
    exact hmirrors.remove_absent (Members.contains_of_find? (Except.ok.inj habsent))
  · rw [hmirrors.load, hmirrors'.load, StorageCall.find?_run hkey]

/-- A file of one entry: a nested value is saved under the empty key, and the first entry removed. -/
theorem mirrors_memory_of_one :
    let one : Value := .number (.integer ⟨1, by decide⟩)
    let f : StateFile := ⟨"state.json", ⟨.present, .file (bytesOfEntries [("a", one)]), .absent, []⟩⟩
    let calls : List StorageCall := [.save "" (.array [.null, one]), .remove "b", .load "a", .remove "a", .load ""]
    StorageCall.answers f calls = [.wrote (.ok ()), .wrote (.ok ()), .found (.ok (some one)), .wrote (.ok ()),
        .found (.ok (some (.array [.null, one])))] ∧
      (StorageCall.after f calls).entries = .ok [("", .array [.null, one])] := by
  intro one f calls
  have hone (levels : Nat) : one.Legible levels := .number (Json.Number.legible_integer _)
  have hlegible : (Value.object [("a", one)]).Legible Json.nestingLimit :=
    .object (List.pairwise_singleton _ _) (by simpa using hone _)
  have hholds : f.Holds [("a", one)] := .object rfl (Json.read?_pretty hlegible) hlegible.ordered.value?_tree
  have hfloats : ∀ x, (Value.object [("a", one)]).Carries (.float x) → (Json.Number.float x).Legible := by
    intro x hx
    cases hx with
    | member hm h =>
      obtain rfl := List.mem_singleton.mp hm
      cases h
  have hvalues : Legible calls := by
    intro key value hmem
    have hvalue : value = .array [.null, one] := by simp [calls] at hmem; exact hmem.2
    rw [hvalue]
    exact .array (by simpa using ⟨.null, hone _⟩)
  obtain ⟨hanswers, hentries, -⟩ := mirrors_memory hholds hfloats (.inr ⟨rfl, nofun, nofun⟩) hvalues
  rw [hanswers, hentries]
  decide +kernel

end StateFile

end RunWatch
