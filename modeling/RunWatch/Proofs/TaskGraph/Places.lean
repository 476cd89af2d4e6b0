import Mathlib.Data.List.FinRange
import Mathlib.Data.List.ProdSigma
import Mathlib.Data.List.Sort
import RunWatch.Proofs.TaskGraph.Links

/-!
# Links, place by place

The links of some tasks read off the places at which their windows stand when they are in order.  Two parts go
into this: which order that is, where windows have start and end in common, and which pairs of places have a
link.

The order is the stable one, and there is only one such (`stablySorted_iff`).  The links are those of the places
that are `LinkedAt`, one place after the other and for each the places behind it from the left to the right
(`links_by_place`).
-/

namespace RunWatch

open Window

/-! ## The stable order -/

/-- Whether two windows start together and end together. -/
def Window.tied (a b : Window) : Bool :=
  decide (a.start = b.start) && decide (a.finish = b.finish)

/-- The windows `ws` are the `given` ones in order, and those that are tied stand as they were given. -/
structure Window.StablySorted (given ws : List Window) : Prop where
  sorted : ws.Pairwise fun a b => a.notAfter b = true
  stable : ∀ w : Window, ws.filter w.tied = given.filter w.tied

namespace Window

variable {given ws ws' : List Window} {a b : Window}

theorem tied_iff : a.tied b = true ↔ a.notAfter b = true ∧ b.notAfter a = true := by
  rw [notAfter_iff, notAfter_iff, tied, Bool.and_eq_true, decide_eq_true_eq, decide_eq_true_eq]
  constructor
  · rintro ⟨hstart, hfinish⟩
    exact ⟨.inr ⟨hstart, hfinish.le⟩, .inr ⟨hstart.symm, hfinish.ge⟩⟩
  · rintro ⟨hlt | ⟨hstart, hle⟩, hlt' | ⟨hstart', hle'⟩⟩
    · exact absurd hlt' hlt.not_gt
    · exact absurd hstart'.symm hlt.ne
    · exact absurd hstart hlt'.ne'
    · exact ⟨hstart, le_antisymm hle hle'⟩

theorem tied_refl (a : Window) : a.tied a = true := by
  simp [tied]

theorem stablySorted_sort (ws : List Window) : StablySorted ws (sort ws) := by
  refine ⟨pairwise_sort ws, fun w => ?_⟩
  have htied : (ws.filter w.tied).Pairwise fun a b => a.notAfter b = true := by
    refine List.pairwise_of_forall_mem_list fun a ha b hb => ?_
    have ha := (tied_iff.mp (List.mem_filter.mp ha).2).2
    have hb := (tied_iff.mp (List.mem_filter.mp hb).2).1
    exact notAfter_trans a w b ha hb
  have hsub : (ws.filter w.tied).Sublist (sort ws) :=
    List.sublist_mergeSort notAfter_trans notAfter_total htied List.filter_sublist
  have hsub' := hsub.filter w.tied
  rw [List.filter_filter] at hsub'
  simp only [Bool.and_self] at hsub'
  exact (hsub'.eq_of_length (((sort_perm ws).filter w.tied).length_eq).symm).symm

theorem StablySorted.mem_iff (h : StablySorted given ws) : a ∈ ws ↔ a ∈ given := by
  have hclass : a ∈ ws.filter a.tied ↔ a ∈ given.filter a.tied := by rw [h.stable a]
  simpa [List.mem_filter, tied_refl] using hclass

/-- The first of the windows in order comes before all others. -/
theorem notAfter_of_mem_cons (h : (a :: ws).Pairwise fun a b => a.notAfter b = true) (hb : b ∈ a :: ws) :
    a.notAfter b = true := by
  obtain rfl | hb := List.mem_cons.mp hb
  · exact (tied_iff.mp (tied_refl b)).1
  · exact (List.pairwise_cons.mp h).1 b hb

theorem StablySorted.unique (h : StablySorted given ws) (h' : StablySorted given ws') : ws = ws' := by
  induction ws generalizing given ws' with
  | nil =>
    cases ws' with
    | nil => rfl
    | cons b ws' => exact absurd (h.mem_iff.mpr (h'.mem_iff.mp List.mem_cons_self)) List.not_mem_nil
  | cons a ws ih =>
    cases ws' with
    | nil => exact absurd (h'.mem_iff.mpr (h.mem_iff.mp List.mem_cons_self)) List.not_mem_nil
    | cons b ws' =>
      have hab : a.notAfter b = true :=
        notAfter_of_mem_cons h.sorted (h.mem_iff.mpr (h'.mem_iff.mp List.mem_cons_self))
      have hba : b.notAfter a = true :=
        notAfter_of_mem_cons h'.sorted (h'.mem_iff.mpr (h.mem_iff.mp List.mem_cons_self))
      -- The two heads are tied, so each is the first of its class.
      have hclass : (a :: ws).filter a.tied = (b :: ws').filter a.tied := (h.stable a).trans (h'.stable a).symm
      rw [List.filter_cons_of_pos (tied_refl a), List.filter_cons_of_pos (tied_iff.mpr ⟨hab, hba⟩)] at hclass
      obtain rfl : a = b := (List.cons.inj hclass).1
      have htails : ∀ w : Window, ws.filter w.tied = ws'.filter w.tied := by
        intro w
        have hw : (a :: ws).filter w.tied = (a :: ws').filter w.tied := (h.stable w).trans (h'.stable w).symm
        simp only [List.filter_cons] at hw
        split at hw
        · exact (List.cons.inj hw).2
        · exact hw
      have hws : StablySorted ws' ws := ⟨(List.pairwise_cons.mp h.sorted).2, htails⟩
      have hws' : StablySorted ws' ws' := ⟨(List.pairwise_cons.mp h'.sorted).2, fun _ => rfl⟩
      rw [ih hws hws']

theorem stablySorted_iff : StablySorted given ws ↔ ws = sort given := by
  constructor
  · exact fun h => h.unique (stablySorted_sort given)
  · rintro rfl
    exact stablySorted_sort given

/-- Of windows in order, some that are picked out stand as if only these had been put in order. -/
theorem filter_sort (p : Window → Bool) (ws : List Window) : (sort ws).filter p = sort (ws.filter p) := by
  refine stablySorted_iff.mp ⟨(pairwise_sort ws).filter p, fun w => ?_⟩
  rw [List.filter_comm, (stablySorted_sort ws).stable w, List.filter_comm]

end Window

/-! ## Places -/

/-- Whether a window may be linked from another: another task, which starts when that one has ended or later,
and strictly after its start. -/
def Window.Succeeds (b a : Window) : Prop :=
  b.id ≠ a.id ∧ a.finish ≤ b.start ∧ a.start < b.start

/-- Whether the window at place `j` is linked from the one at `i`: it stands behind that one and succeeds it, and
none in between the two succeeds that one and has ended when the window at `j` starts. -/
def Window.LinkedAt (ws : List Window) (i j : Fin ws.length) : Prop :=
  i < j ∧ ws[j].Succeeds ws[i] ∧ ¬∃ k, i < k ∧ k < j ∧ ws[k].Succeeds ws[i] ∧ ws[k].finish ≤ ws[j].start

instance (a b : Window) : Decidable (b.Succeeds a) :=
  inferInstanceAs (Decidable (_ ∧ _))

instance (ws : List Window) (i j : Fin ws.length) : Decidable (LinkedAt ws i j) :=
  inferInstanceAs (Decidable (_ ∧ _))

/-- The pairs of places that have a link, in lexicographic order. -/
def Window.linkedPlaces (ws : List Window) : List (Fin ws.length × Fin ws.length) :=
  (List.finRange ws.length ×ˢ List.finRange ws.length).filter fun p => LinkedAt ws p.1 p.2

namespace Window

variable {ws : List Window} {a b source : Window} {passed : List Window}

theorem succeeds_iff : b.Succeeds a ↔ a.mayFollow b = true := by
  rw [mayFollow_iff, Succeeds]
  tauto

theorem mem_linkedPlaces {i j : Fin ws.length} : (i, j) ∈ linkedPlaces ws ↔ LinkedAt ws i j := by
  simp [linkedPlaces]

theorem pairwise_linkedPlaces (ws : List Window) :
    (linkedPlaces ws).Pairwise (Prod.Lex (· < ·) (· < ·)) := by
  have hplaces : (List.finRange ws.length).Pairwise (· < ·) :=
    List.sortedLT_iff_pairwise.mp (List.sortedLT_finRange ws.length)
  apply List.Pairwise.filter
  refine List.pairwise_flatMap.mpr ⟨fun i _ => ?_, hplaces.imp fun {i i'} hlt p hp p' hp' => ?_⟩
  · exact List.pairwise_map.mpr (hplaces.imp fun hlt => .right i hlt)
  · obtain ⟨j, -, rfl⟩ := List.mem_map.mp hp
    obtain ⟨j', -, rfl⟩ := List.mem_map.mp hp'
    exact .left j j' hlt

/-! ## From the scan to the places -/

/-- The places of a window and of those behind it. -/
theorem finRange_cons (w : Window) (ws : List Window) :
    List.finRange (w :: ws).length = 0 :: (List.finRange ws.length).map Fin.succ :=
  List.finRange_succ

/-- The links from one window, by the places of the windows behind it. -/
theorem linksFromByDefinition_eq (source : Window) (passed ws : List Window) :
    linksFromByDefinition source passed ws =
      ((List.finRange ws.length).filter fun j : Fin ws.length => source.Joins (passed ++ ws.take j) ws[j]).map
        fun j => ⟨source.id, ws[j].id⟩ := by
  induction ws generalizing passed with
  | nil => rfl
  | cons w ws ih =>
    have hbehind : ∀ j : Fin ws.length,
        source.Joins (passed ++ (w :: ws).take j.succ) (w :: ws)[j.succ] ↔
          source.Joins (passed ++ [w] ++ ws.take j) ws[j] := by
      intro j
      rw [List.append_assoc]
      rfl
    rw [linksFromByDefinition_cons, ih, finRange_cons, List.filter_cons, List.filter_map]
    simp only [Function.comp_def, hbehind]
    by_cases h : source.Joins passed w
    · simp [h]
    · simp [h]

theorem linkedAt_zero {w : Window} {j : Fin ws.length} :
    LinkedAt (w :: ws) 0 j.succ ↔ w.Joins (ws.take j) ws[j] := by
  constructor
  · rintro ⟨-, hsucceeds, hnone⟩
    refine ⟨succeeds_iff.mp hsucceeds, fun k hk hfollow => ?_⟩
    by_contra hle
    obtain ⟨i, hi, rfl⟩ := List.mem_take_iff_getElem.mp hk
    let place : Fin ws.length := ⟨i, (Nat.lt_min.mp hi).2⟩
    have hplace : place < j := (Nat.lt_min.mp hi).1
    exact hnone ⟨place.succ, place.succ_pos, Fin.succ_lt_succ_iff.mpr hplace, succeeds_iff.mpr hfollow,
      not_lt.mp hle⟩
  · rintro ⟨hfollow, hbetween⟩
    refine ⟨j.succ_pos, succeeds_iff.mpr hfollow, ?_⟩
    rintro ⟨k, hk, hkj, hsucceeds, hle⟩
    obtain ⟨place, rfl⟩ := Fin.exists_succ_eq.mpr hk.ne'
    have hmem : ws[place] ∈ ws.take j :=
      List.mem_take_iff_getElem.mpr ⟨place, lt_min (Fin.succ_lt_succ_iff.mp hkj) place.isLt, rfl⟩
    exact absurd hle (not_le.mpr (hbetween ws[place] hmem (succeeds_iff.mp hsucceeds)))

theorem linkedAt_succ {w : Window} {i j : Fin ws.length} :
    LinkedAt (w :: ws) i.succ j.succ ↔ LinkedAt ws i j := by
  refine and_congr Fin.succ_lt_succ_iff (and_congr Iff.rfl (not_congr ⟨?_, ?_⟩))
  · rintro ⟨k, hik, hkj, hk⟩
    obtain ⟨k, rfl⟩ := Fin.exists_succ_eq.mpr (i.succ_pos.trans hik).ne'
    exact ⟨k, Fin.succ_lt_succ_iff.mp hik, Fin.succ_lt_succ_iff.mp hkj, hk⟩
  · rintro ⟨k, hik, hkj, hk⟩
    exact ⟨k.succ, Fin.succ_lt_succ_iff.mpr hik, Fin.succ_lt_succ_iff.mpr hkj, hk⟩

theorem not_linkedAt_first {w : Window} {i : Fin (w :: ws).length} : ¬LinkedAt (w :: ws) i 0 :=
  fun h => absurd h.1 (Fin.not_lt_zero i)

/-- The linked places, row by row. -/
theorem linkedPlaces_eq (ws : List Window) :
    linkedPlaces ws = (List.finRange ws.length).flatMap fun i =>
      ((List.finRange ws.length).filter fun j => LinkedAt ws i j).map (Prod.mk i) := by
  rw [linkedPlaces]
  refine (List.filter_flatMap).trans (List.flatMap_congr fun i _ => ?_)
  exact List.filter_map

/-- The linked places of a window and those behind it: the row of the window, then the other rows. -/
theorem linkedPlaces_cons (w : Window) (ws : List Window) :
    linkedPlaces (w :: ws) =
      (((List.finRange ws.length).filter fun j : Fin ws.length => w.Joins (ws.take j) ws[j]).map
        fun j => (0, j.succ)) ++ (linkedPlaces ws).map fun p => (p.1.succ, p.2.succ) := by
  have hrow : ∀ i, (List.finRange (w :: ws).length).filter (fun j => LinkedAt (w :: ws) i j) =
      ((List.finRange ws.length).filter fun j => LinkedAt (w :: ws) i j.succ).map Fin.succ := by
    intro i
    rw [finRange_cons, List.filter_cons_of_neg (by simpa using not_linkedAt_first), List.filter_map]
    rfl
  rw [linkedPlaces_eq, finRange_cons, List.flatMap_cons, List.flatMap_map, ← finRange_cons]
  simp only [hrow, linkedAt_zero, linkedAt_succ, linkedPlaces_eq ws, List.map_flatMap, List.map_map]
  rfl

theorem linkSortedByDefinition_eq (ws : List Window) :
    linkSortedByDefinition ws = (linkedPlaces ws).map fun p => ⟨ws[p.1].id, ws[p.2].id⟩ := by
  induction ws with
  | nil => rfl
  | cons w ws ih =>
    rw [linkSortedByDefinition, ih, linksFromByDefinition_eq, linkedPlaces_cons, List.map_append, List.map_map,
      List.map_map]
    rfl

end Window

/-- The links of tasks are those of the places that are `LinkedAt`, in lexicographic order, once the windows of the
tasks stand in their stable order. -/
theorem links_by_place (now : Instant) (spans : List Span) :
    let ws := sortedWindows now spans
    (∀ ws', StablySorted (spans.map (Window.ofSpan now)) ws' ↔ ws' = ws) ∧
      ∃ places : List (Fin ws.length × Fin ws.length), places.Pairwise (Prod.Lex (· < ·) (· < ·)) ∧
        (∀ i j, (i, j) ∈ places ↔ LinkedAt ws i j) ∧
        link now spans = places.map fun p => ⟨ws[p.1].id, ws[p.2].id⟩ := by
  intro ws
  refine ⟨fun ws' => stablySorted_iff, linkedPlaces ws, pairwise_linkedPlaces ws, fun i j => mem_linkedPlaces, ?_⟩
  rw [link_eq_linkByDefinition]
  exact linkSortedByDefinition_eq ws

end RunWatch
