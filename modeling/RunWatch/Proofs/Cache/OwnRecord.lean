import RunWatch.Proofs.Cache.SingleChanges

/-!
# Changes and their own record

A listing is read by identifiers, although nothing keeps one from standing in it several times, and a reply about a
record may come more than once.  This module says what a change that concerns one record makes of the places where it
stands and of everything else (`changes_touch_one_record`).

The records of other identifiers stay, in their order (`others_apply`).  What a change has made of a record it makes of
it again (`revise_revise`), and once applied it has nothing left to add unless it is a creation (`adds_apply_self`), so
applied again it finds everything as it would leave it (`apply_apply`).
-/

namespace RunWatch

namespace Change

variable {R : Type} [Record R] {a : Change R} {i : Uuid} {r old new : R}

/-- Whether a change creates a record. -/
def isCreation : Change R → Bool
  | .created _ => true
  | _ => false

theorem eq_of_revise (hnew : (Change.updated r).revise old = some new) (hid : Record.id new = Record.id r) :
    new = r := by
  have hold : Record.id old = Record.id r := (id_of_revise hnew).symm.trans hid
  rw [revise, if_pos hold] at hnew
  exact (Option.some.inj hnew).symm

/-- What a change has made of a record it makes of it again. -/
theorem revise_revise (a : Change R) (old : R) : (a.revise old).bind a.revise = a.revise old := by
  cases hrevise : a.revise old with
  | none => rfl
  | some new =>
    rw [Option.bind_some]
    cases a with
    | gotOne r | updated r =>
      by_cases hid : Record.id new = Record.id r
      · obtain rfl := eq_of_revise hrevise hid
        simp [revise]
      · simp [revise, hid]
    | deleted d =>
      have hne : Record.id new ≠ d.id := by
        intro hid
        have hold : Record.id old = d.id := (id_of_revise hrevise).symm.trans hid
        rw [revise, if_pos hold] at hrevise
        cases hrevise
      simp [revise, hne]
    | _ => rfl

end Change

namespace Listing

open Change

variable {R : Type} [Record R] {a : Change R} {i : Uuid}

/-! ## The record itself -/

theorem ids_gotOne (s initial : Listing R) (r : R) :
    ids (s.apply initial (.gotOne r)).items =
      if Record.id r ∈ ids s.items then ids s.items else ids s.items ++ [Record.id r] := by
  by_cases h : Record.id r ∈ ids s.items
  · rw [apply, if_pos (has_iff.mpr h), if_pos h, ids_replace]
  · rw [apply, if_neg (mt has_iff.mp h), if_neg h, ids_append]
    rfl

/-- Wherever a record stands that was fetched, it is the one that was fetched. -/
theorem eq_of_mem_gotOne {s initial : Listing R} {r r' : R} (hmem : r' ∈ (s.apply initial (.gotOne r)).items)
    (hid : Record.id r' = Record.id r) : r' = r := by
  rw [items_apply rfl] at hmem
  obtain hmem | hmem := List.mem_append.mp hmem
  · obtain ⟨old, -, hrevise⟩ := List.mem_filterMap.mp hmem
    exact eq_of_revise hrevise hid
  · rw [adds] at hmem
    split at hmem
    · cases hmem
    · exact List.mem_singleton.mp hmem

theorem eq_of_mem_updated {s initial : Listing R} {r r' : R} (hmem : r' ∈ (s.apply initial (.updated r)).items)
    (hid : Record.id r' = Record.id r) : r' = r := by
  have hitems : (s.apply initial (.updated r)).items = s.items.filterMap (updated r).revise :=
    replace_eq_filterMap r s.items
  rw [hitems] at hmem
  obtain ⟨old, -, hrevise⟩ := List.mem_filterMap.mp hmem
  exact eq_of_revise hrevise hid

theorem not_mem_ids_deleted (s initial : Listing R) (d : Deleted) :
    d.id ∉ ids (s.apply initial (.deleted d)).items := by
  intro hmem
  obtain ⟨r, hr, hid⟩ := List.mem_map.mp hmem
  exact of_decide_eq_true (List.mem_filter.mp hr).2 hid

/-! ## The same change again -/

theorem adds_apply_self (hkeeps : a.isCreation = false) (s initial : Listing R) :
    (s.apply initial a).adds a = [] := by
  cases a with
  | gotOne r =>
    have hmem : Record.id r ∈ ids (s.apply initial (.gotOne r)).items := by
      rw [ids_gotOne]
      split
      · assumption
      · exact List.mem_append_right _ List.mem_cons_self
    rw [adds, if_pos (has_iff.mpr hmem)]
  | created r => cases hkeeps
  | _ => rfl

/-- What a change adds it leaves alone. -/
theorem filterMap_revise_adds (a : Change R) (s : Listing R) : (s.adds a).filterMap a.revise = s.adds a := by
  cases a with
  | gotOne r =>
    rw [adds]
    split
    · rfl
    · simp [revise]
  | _ => rfl

/-- What it has made of the records at hand it makes of them again. -/
theorem items_apply_self (ha : a.subject? = some i) (s initial : Listing R) :
    (s.apply initial a).items.filterMap a.revise = (s.apply initial a).items := by
  rw [items_apply ha, List.filterMap_append, filterMap_revise_adds, List.filterMap_filterMap]
  rw [List.filterMap_congr fun old _ => revise_revise a old]

theorem loses_apply_self (a : Change R) (s initial : Listing R) : (s.apply initial a).loses a = 0 := by
  cases a with
  | deleted d => simp [loses, apply, remove]
  | _ => rfl

omit [Record R] in
theorem eq_of_parts {s s' : Listing R} (hitems : s.items = s'.items) (htotal : s.total = s'.total)
    (hselected : s.selected = s'.selected) (hrequest : s.request = s'.request) : s = s' := by
  obtain ⟨items, total, selected, page, count, sort⟩ := s
  obtain ⟨hpage, hrest⟩ := Prod.mk.inj hrequest
  obtain ⟨hcount, hsort⟩ := Prod.mk.inj hrest
  simp only at hitems htotal hselected hpage hcount hsort
  subst hitems htotal hselected hpage hcount hsort
  rfl

/-- Unless it is a creation, a change of one record that is applied again makes no difference. -/
theorem apply_apply (ha : a.subject? = some i) (hkeeps : a.isCreation = false) (s initial : Listing R) :
    (s.apply initial a).apply initial a = s.apply initial a := by
  have hadds := adds_apply_self hkeeps s initial
  have hitems := items_apply_self ha s initial
  refine eq_of_parts ?_ ?_ ?_ (request_apply ha _ _)
  · rw [items_apply ha, hitems, hadds, List.append_nil]
  · rw [← UInt64.toNat_inj, toNat_total_apply (concernsOne_of_subject? ha), hadds, loses_apply_self]
    exact Nat.mod_eq_of_lt (UInt64.toNat_lt _)
  · rw [selected_apply ha, selected_apply ha]
    cases a.record? with
    | some r => rfl
    | none => rw [Option.none_or, Option.none_or, Option.bind_assoc, funext fun old => revise_revise a old]

end Listing

/-- A change that concerns one record leaves all other records in place, and with them the request that the records
answer.  A record that was fetched is what stands in every place of its identifier, and at the end if it had none; one
that was updated takes its places and gets no new one; one that was deleted is neither at hand nor singled out any more.
Unless a record is created, the same change again makes no difference. -/
theorem changes_touch_one_record {R : Type} [Record R] {change : Change R} {i : Uuid}
    (hi : change.subject? = some i) (s initial : Listing R) :
    let s' := s.apply initial change
    (s'.items.filter (fun r => Record.id r ≠ i) = s.items.filter (fun r => Record.id r ≠ i) ∧
      s'.page = s.page ∧ s'.count = s.count ∧ s'.sort = s.sort) ∧
    (∀ r, change = .gotOne r → (∀ r' ∈ s'.items, Record.id r' = i → r' = r) ∧
      Listing.ids s'.items = if i ∈ Listing.ids s.items then Listing.ids s.items else Listing.ids s.items ++ [i]) ∧
    (∀ r, change = .updated r → (∀ r' ∈ s'.items, Record.id r' = i → r' = r) ∧
      Listing.ids s'.items = Listing.ids s.items) ∧
    (∀ d, change = .deleted d → i ∉ Listing.ids s'.items ∧
      ∀ r, s'.selected = some r ↔ s.selected = some r ∧ Record.id r ≠ i) ∧
    (change.isCreation = false → s'.apply initial change = s') := by
  intro s'
  have hrequest : s'.request = s.request := Listing.request_apply hi s initial
  obtain ⟨hpage, hrest⟩ := Prod.mk.inj hrequest
  refine ⟨⟨Listing.others_apply hi s initial, hpage, Prod.mk.inj hrest⟩, ?_, ?_, ?_, ?_⟩
  · rintro r rfl
    obtain rfl := Option.some.inj hi
    exact ⟨fun r' => Listing.eq_of_mem_gotOne, Listing.ids_gotOne s initial r⟩
  · rintro r rfl
    obtain rfl := Option.some.inj hi
    exact ⟨fun r' => Listing.eq_of_mem_updated, Listing.ids_replace r s.items⟩
  · rintro d rfl
    obtain rfl := Option.some.inj hi
    have hselected : s'.selected = s.selected.filter fun r => Record.id r ≠ d.id := rfl
    refine ⟨Listing.not_mem_ids_deleted s initial d, fun r => ?_⟩
    rw [hselected, Option.filter_eq_some_iff, decide_eq_true_iff]
  · exact fun hkeeps => Listing.apply_apply hi hkeeps s initial

/-- A record that stands twice, around another one, is fetched anew, and then once more. -/
theorem fetched_record_takes_both_places :
    let project (d : Fin 16) (name : String) : Project := ⟨⟨⟨List.replicate 32 d, rfl⟩, name, none, none, none, true⟩⟩
    let s : Listing Project := ⟨[project 1 "a", project 2 "b", project 1 "c"], 7, none, some 0, some 20, none⟩
    let fetched : Change Project := .gotOne (project 1 "d")
    let s' := s.apply s fetched
    fetched.subject? = some (project 1 "a").profile.id ∧
      s'.items = [project 1 "d", project 2 "b", project 1 "d"] ∧ s'.count = some 20 ∧
      Listing.ids s'.items = Listing.ids s.items ∧ s'.apply s fetched = s' := by
  intro project s fetched s'
  have hi : fetched.subject? = some (project 1 "a").profile.id := rfl
  obtain ⟨⟨-, -, hcount, -⟩, hgot, -, -, hagain⟩ := changes_touch_one_record hi s s
  exact ⟨hi, by decide, hcount, (hgot _ rfl).2.trans (if_pos (by decide)), hagain rfl⟩

end RunWatch
