import RunWatch.Proofs.Selection.Calls
import RunWatch.Proofs.Selection.StateFile

/-!
# Starting over from a damaged file

Saving and removing start from the entries of the file, or from none if it holds a text that is no object.  So on a
disk that serves they succeed whatever text the file holds, and what has been saved or removed shows, provided that a
saved value is one that is read back (`StateFile.recovers_iff_text`).  Of the entries that were there before only the
numbers may change: they are read from what they are written as.

Bytes that are no text at all are not given up but reported like a failure of the disk: saving and removing fail on
them, as often as they are tried.
-/

namespace RunWatch

open Json (Value Members)

namespace StateFile

/-- The file holds a text, if it holds anything. -/
def HoldsText (f : StateFile) : Prop :=
  ∀ bytes, f.disk.contents = .ok bytes → bytes.IsValidUTF8

theorem entries_of_not_text {f : StateFile} (h : ¬f.HoldsText) :
    f.entries = .error (.storage DiskFault.notText.message) := by
  unfold HoldsText at h
  push Not at h
  obtain ⟨bytes, hcontents, hbytes⟩ := h
  have hutf8 : String.fromUTF8? bytes = none := dif_neg hbytes
  rw [entries, hcontents, entriesOf, entriesOfBytes, hutf8]

/-- A text that is no object and not blank is damaged, and nothing else is the matter with it. -/
theorem entriesOfText_cases (text : String) :
    (∃ ms, entriesOfText text = .ok ms) ∨ ∃ reason, entriesOfText text = .error (.corrupt reason) := by
  unfold entriesOfText
  split
  · exact .inl ⟨_, rfl⟩
  · split
    · exact .inl ⟨_, rfl⟩
    · exact .inr ⟨_, rfl⟩

/-- Whatever text there is, an update can start. -/
theorem starting_of_text {f : StateFile} (hserves : f.disk.Serves) (h : f.HoldsText) :
    ∃ old givenUp, startingEntries f.disk.contents = .ok (old, givenUp) := by
  obtain hcontents | ⟨bytes, hcontents⟩ := hserves.contents
  · rw [hcontents]
    exact ⟨[], false, rfl⟩
  · obtain ⟨text, hutf8⟩ : ∃ text, String.fromUTF8? bytes = some text := ⟨_, dif_pos (h bytes hcontents)⟩
    have hentries : entriesOf (.ok bytes) = entriesOfText text := by rw [entriesOf, entriesOfBytes, hutf8]
    rw [hcontents, startingEntries, hentries]
    obtain ⟨ms, hms⟩ | ⟨reason, hcorrupt⟩ := entriesOfText_cases text
    · rw [hms]
      exact ⟨ms, false, rfl⟩
    · rw [hcorrupt]
      exact ⟨[], true, rfl⟩

/-- What an update starts from can be written and read. -/
theorem readable_of_starting {f : StateFile} {old : Members} {givenUp : Bool}
    (hstart : startingEntries f.disk.contents = .ok (old, givenUp)) :
    (Value.object old).Readable Json.nestingLimit := by
  obtain ⟨hentries, -⟩ | ⟨-, rfl, -⟩ := starting_cases hstart
  · exact readable_of_entries hentries
  · exact .object Members.sorted_nil nofun

/-- What has been written is found by its key, with its numbers read again. -/
theorem load_replaced (f : StateFile) {ms : Members} (h : (Value.object ms).Readable Json.nestingLimit) (key : String) :
    SelectionStorage.load (f.replaced ms) key = .ok ((ms.find? key).map Value.reread) := by
  have hentries : (f.replaced ms).entries = .ok (Value.rereadMembers ms) := entriesOfBytes_reread h
  change (f.replaced ms).entries.map (Members.find? key) = _
  rw [hentries, Except.map, Value.find?_rereadMembers]

/-- Whatever a load returns can be written and read as an entry. -/
theorem readable_of_load {f : StateFile} {key : String} {value : Value}
    (h : SelectionStorage.load f key = .ok (some value)) : value.Readable (Json.nestingLimit - 1) := by
  change f.entries.map (Members.find? key) = _ at h
  cases hentries : f.entries with
  | error fault =>
    rw [hentries] at h
    cases h
  | ok ms =>
    rw [hentries] at h
    obtain ⟨m, hm, rfl⟩ := Members.mem_of_find? (Except.ok.inj h)
    cases readable_of_entries hentries with
    | object hs hms => exact hms m hm

/-- A value that is saved is loaded if and only if it is legible as an entry. -/
theorem save_of_text {f : StateFile} {old : Members} {givenUp : Bool} (hserves : f.disk.Serves)
    (hstart : startingEntries f.disk.contents = .ok (old, givenUp)) (key : String) (value : Value) :
    (f.written (saving key value)).outcome = .ok () ∧
      (SelectionStorage.load (f.written (saving key value)).storage key = .ok (some value) ↔
        value.Legible (Json.nestingLimit - 1)) := by
  have hwritten : f.written (saving key value) = ⟨f.replaced (old.insert key value), .ok (), f.discardNote⟩ :=
    written_replaced hserves hstart rfl
  have hload (hvalue : value.Readable (Json.nestingLimit - 1)) :
      SelectionStorage.load (f.replaced (old.insert key value)) key = .ok (some value.reread) := by
    have hold := readable_of_starting hstart
    rw [load_replaced f (readable_insert hold key hvalue) key, Members.find?_insert, if_pos rfl, Option.map_some]
  rw [hwritten]
  refine ⟨rfl, fun h => ?_, fun hvalue => ?_⟩
  · have hvalue := readable_of_load h
    exact hvalue.legible_of_reread (Option.some.inj (Except.ok.inj ((hload hvalue).symm.trans h)))
  · exact (hload hvalue.readable).trans (by rw [hvalue.reread])

/-- A legible value whose save succeeds is loaded, whatever the file held before. -/
theorem load_saved {f : StateFile} {key : String} {value : Value} (hvalue : value.Legible (Json.nestingLimit - 1))
    (hok : (SelectionStorage.save f key value).outcome = .ok ()) :
    SelectionStorage.load (SelectionStorage.save f key value).storage key = .ok (some value) := by
  change (f.written (saving key value)).outcome = .ok () at hok
  change (f.written (saving key value)).storage.entries.map (Members.find? key) = _
  have hupdate := update_none (saving key value) f.disk
  cases hstart : startingEntries f.disk.contents with
  | error fault =>
    rw [written_refused hstart] at hok
    cases hok
  | ok start =>
    obtain ⟨old, givenUp⟩ := start
    have hreadable := readable_insert (readable_of_starting hstart) key hvalue.readable
    simp only [hstart, saving] at hupdate
    obtain ⟨-, hcontents⟩ | ⟨fault, hfailed, -⟩ := finish_none (old.insert key value) f.disk
    · simp only [written, hupdate, entries, hcontents]
      rw [entriesOf, entriesOfBytes_reread hreadable, Except.map, Value.find?_rereadMembers, Members.find?_insert,
        if_pos rfl, Option.map_some, hvalue.reread]
    · simp [written, hupdate, hfailed] at hok

theorem remove_of_text {f : StateFile} {old : Members} {givenUp : Bool} (hserves : f.disk.Serves)
    (hstart : startingEntries f.disk.contents = .ok (old, givenUp)) (key : String) :
    (f.written (removing key)).outcome = .ok () ∧
      SelectionStorage.load (f.written (removing key)).storage key = .ok none := by
  by_cases hchange : (old.contains key || givenUp) = true
  · have hwritten : f.written (removing key) = ⟨f.replaced (old.erase key), .ok (), f.discardNote⟩ :=
      written_replaced hserves hstart (if_pos hchange)
    have hload := load_replaced f (readable_erase (readable_of_starting hstart) key) key
    rw [Members.find?_erase_self, Option.map_none] at hload
    rw [hwritten]
    exact ⟨rfl, hload⟩
  · have hwritten : f.written (removing key) = ⟨f, .ok (), f.discardNote⟩ :=
      written_unchanged hstart (if_neg hchange)
    rw [Bool.or_eq_true, not_or, Bool.not_eq_true, Bool.not_eq_true] at hchange
    obtain ⟨hentries, -⟩ | ⟨-, -, hgivenUp⟩ := starting_cases hstart
    · rw [hwritten]
      refine ⟨rfl, ?_⟩
      change f.entries.map (Members.find? key) = _
      rw [hentries, Except.map, Members.find?_eq_none_of_contains hchange.1]
    · cases hchange.2.symm.trans hgivenUp

/-- On a disk that lets the file be read and replaced, removing a key succeeds, and the next load shows it, if and only
if the file holds a text or nothing at all; saving a value does if, besides, the value is one that is read back as an
entry.  On anything that is no text both fail like a load and leave it there.  Loading changes nothing. -/
theorem recovers_iff_text {f : StateFile} (hserves : f.disk.Serves) (key : String) (value : Value) :
    let saved := SelectionStorage.save f key value
    let removed := SelectionStorage.remove f key
    (saved.outcome = .ok () ∧ SelectionStorage.load saved.storage key = .ok (some value) ↔
      f.HoldsText ∧ value.Legible (Json.nestingLimit - 1)) ∧
    (removed.outcome = .ok () ∧ SelectionStorage.load removed.storage key = .ok none ↔ f.HoldsText) ∧
    (¬f.HoldsText → ∃ fault, (∀ key', SelectionStorage.load f key' = .error fault) ∧
      (saved.outcome = .error fault ∧ saved.storage = f) ∧ removed.outcome = .error fault ∧ removed.storage = f) ∧
    ((StorageCall.load key).run f).1 = f := by
  intro saved removed
  by_cases htext : f.HoldsText
  · obtain ⟨old, givenUp, hstart⟩ := starting_of_text hserves htext
    obtain ⟨hsaved, hload⟩ := save_of_text hserves hstart key value
    exact ⟨(and_iff_right hsaved).trans (hload.trans (and_iff_right htext).symm),
      iff_of_true (remove_of_text hserves hstart key) htext, fun h => absurd htext h, rfl⟩
  · have hentries : entriesOf f.disk.contents = _ := entries_of_not_text htext
    have hstart : startingEntries f.disk.contents = .error (.storage DiskFault.notText.message) := by
      rw [startingEntries, hentries]
    have hsaved : saved = ⟨f, .error _, f.discardNote⟩ := written_refused hstart (saving key value)
    have hremoved : removed = ⟨f, .error _, f.discardNote⟩ := written_refused hstart (removing key)
    have hload (key' : String) : SelectionStorage.load f key' = .error (.storage DiskFault.notText.message) := by
      change f.entries.map (Members.find? key') = _
      rw [entries_of_not_text htext]
      rfl
    refine ⟨iff_of_false ?_ fun h => htext h.1, iff_of_false ?_ htext, fun _ => ⟨_, hload, ?_, ?_⟩, rfl⟩
    · rw [hsaved]
      rintro ⟨h, -⟩
      cases h
    · rw [hremoved]
      rintro ⟨h, -⟩
      cases h
    · rw [hsaved]
      exact ⟨rfl, rfl⟩
    · rw [hremoved]
      exact ⟨rfl, rfl⟩

/-- An object that has been cut off inside a character is not recovered from. -/
theorem cut_character_not_recovered :
    let whole : ByteArray := "\x7b\"name\":\"\u00e9\"\x7d".toUTF8
    let f : StateFile := ⟨"state.json", ⟨.present, .file (whole.extract 0 10), .absent, []⟩⟩
    let one : Value := .number (.ofNat 1)
    f.disk.Serves ∧ one.Legible (Json.nestingLimit - 1) ∧ whole.size = 13 ∧ (entriesOfBytes whole).toOption.isSome ∧
      (SelectionStorage.save f "k" one).outcome = .error (.storage DiskFault.notText.message) ∧
      (SelectionStorage.remove f "k").outcome = .error (.storage DiskFault.notText.message) := by
  intro whole f one
  exact ⟨.inr ⟨rfl, by simp [f], by simp [f]⟩, .number (Json.Number.legible_integer _), by decide +kernel,
    by decide +kernel, by decide +kernel, by decide +kernel⟩

/-- An object that has been cut off between two characters is. -/
theorem cut_text_recovered :
    let f : StateFile := ⟨"state.json", ⟨.present, .file "\x7b\"name\":".toUTF8, .absent, []⟩⟩
    let one : Value := .number (.ofNat 1)
    let saved := SelectionStorage.save f "k" one
    f.entries.toOption = none ∧ saved.outcome = .ok () ∧ SelectionStorage.load saved.storage "k" = .ok (some one) := by
  intro f one saved
  have hone : one.Legible (Json.nestingLimit - 1) := .number (Json.Number.legible_integer _)
  have htext : f.HoldsText := by
    intro bytes hbytes
    obtain rfl : "\x7b\"name\":".toUTF8 = bytes := Except.ok.inj hbytes
    exact String.isValidUTF8 _
  have hserves : f.disk.Serves := .inr ⟨rfl, by simp [f], by simp [f]⟩
  exact ⟨by decide +kernel, (recovers_iff_text hserves "k" one).1.mpr ⟨htext, hone⟩⟩

end StateFile

end RunWatch
