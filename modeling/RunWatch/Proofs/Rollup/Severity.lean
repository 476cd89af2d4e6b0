import Mathlib.Data.List.MinMax
import RunWatch.Rollup.Severity

/-!
# The most severe status

No two statuses weigh the same, so there is only one among some statuses that none of the others outweighs
(`RunStatus.Leads`), wherever it stands and however often.  That one is what statuses are rolled up to
(`mostSevereOr_eq_iff`): a rollup depends on which statuses there are and on nothing else (`mostSevereOr_congr`), and it
may be made part by part (`mostSevereOr_parts`).
-/

namespace RunWatch

theorem Severity.weight_injective : Function.Injective Severity.weight := by
  intro a b
  cases a <;> cases b <;> decide

namespace RunStatus

theorem severity_injective : Function.Injective severity := by
  intro a b
  cases a <;> cases b <;> decide

theorem weight_injective : Function.Injective fun s : RunStatus => s.severity.weight :=
  Severity.weight_injective.comp severity_injective

/-- A status that is among some others and that none of them outweighs. -/
structure Leads (s : RunStatus) (statuses : List RunStatus) : Prop where
  mem : s ∈ statuses
  weight_le : ∀ s' ∈ statuses, s'.severity.weight ≤ s.severity.weight

variable {initial other s t : RunStatus} {statuses xs ys : List RunStatus}

theorem Leads.unique (hs : s.Leads statuses) (ht : t.Leads statuses) : s = t :=
  weight_injective (Nat.le_antisymm (ht.weight_le s hs.mem) (hs.weight_le t ht.mem))

theorem Leads.congr (h : ∀ s, s ∈ xs ↔ s ∈ ys) (hs : s.Leads xs) : s.Leads ys :=
  ⟨(h s).mp hs.mem, fun s' hs' => hs.weight_le s' ((h s').mpr hs')⟩

/-! ## The heavier of two -/

theorem heavier_eq_or (a b : RunStatus) : heavier a b = a ∨ heavier a b = b := by
  unfold heavier
  split
  · exact .inl rfl
  · exact .inr rfl

theorem weight_heavier (a b : RunStatus) :
    (heavier a b).severity.weight = max a.severity.weight b.severity.weight := by
  unfold heavier
  split <;> omega

/-- What leads when two statuses are replaced by the heavier one has led before. -/
theorem Leads.of_heavier {a b : RunStatus} {rest : List RunStatus} (h : s.Leads (heavier a b :: rest)) :
    s.Leads (a :: b :: rest) := by
  obtain ⟨hfirst, hrest⟩ := List.forall_mem_cons.mp h.weight_le
  rw [weight_heavier, Nat.max_le] at hfirst
  refine ⟨?_, List.forall_mem_cons.mpr ⟨hfirst.1, List.forall_mem_cons.mpr ⟨hfirst.2, hrest⟩⟩⟩
  rcases List.mem_cons.mp h.mem with rfl | hmem
  · rcases heavier_eq_or a b with heq | heq
    · rw [heq]
      exact List.mem_cons_self
    · rw [heq]
      exact List.mem_cons_of_mem _ List.mem_cons_self
  · exact List.mem_cons_of_mem _ (List.mem_cons_of_mem _ hmem)

theorem leads_foldl_heavier (s : RunStatus) (rest : List RunStatus) : (rest.foldl heavier s).Leads (s :: rest) := by
  induction rest generalizing s with
  | nil => exact ⟨List.mem_cons_self, List.forall_mem_singleton.mpr (Nat.le_refl _)⟩
  | cons a rest ih => exact (ih (heavier s a)).of_heavier

/-! ## The most severe of many -/

theorem leads_mostSevereOr (initial : RunStatus) (h : statuses ≠ []) : (mostSevereOr initial statuses).Leads statuses := by
  cases statuses with
  | nil => exact absurd rfl h
  | cons s rest => exact leads_foldl_heavier s rest

theorem mostSevereOr_eq_iff (h : statuses ≠ []) : mostSevereOr initial statuses = s ↔ s.Leads statuses := by
  constructor
  · rintro rfl
    exact leads_mostSevereOr initial h
  · exact (leads_mostSevereOr initial h).unique

theorem mostSevereOr_of_ne_nil (initial other : RunStatus) (h : statuses ≠ []) :
    mostSevereOr initial statuses = mostSevereOr other statuses :=
  (mostSevereOr_eq_iff h).mpr (leads_mostSevereOr other h)

theorem mostSevereOr_congr (initial : RunStatus) (h : ∀ s, s ∈ xs ↔ s ∈ ys) :
    mostSevereOr initial xs = mostSevereOr initial ys := by
  have hnil : xs = [] ↔ ys = [] := by simp only [List.eq_nil_iff_forall_not_mem, h]
  by_cases hxs : xs = []
  · rw [hxs, hnil.mp hxs]
  · have hys : ys ≠ [] := mt hnil.mpr hxs
    exact (mostSevereOr_eq_iff hxs).mpr ((leads_mostSevereOr initial hys).congr fun s => (h s).symm)

/-- Parts that are rolled up first may be rolled up as one, whatever each of them starts from. -/
theorem mostSevereOr_parts (initial other : RunStatus) {parts : List (RunStatus × List RunStatus)} (hparts : parts ≠ [])
    (hpart : ∀ p ∈ parts, p.2 ≠ []) :
    mostSevereOr initial (parts.map fun p => mostSevereOr p.1 p.2) = mostSevereOr other (parts.flatMap Prod.snd) := by
  have hwhole : parts.flatMap Prod.snd ≠ [] := by
    obtain ⟨p, hp⟩ := List.exists_mem_of_ne_nil parts hparts
    obtain ⟨s, hs⟩ := List.exists_mem_of_ne_nil p.2 (hpart p hp)
    exact List.ne_nil_of_mem (List.mem_flatMap.mpr ⟨p, hp, hs⟩)
  have hleads := leads_mostSevereOr other hwhole
  refine (mostSevereOr_eq_iff (mt List.map_eq_nil_iff.mp hparts)).mpr ⟨?_, ?_⟩
  · -- The part that the most severe status is in is rolled up to it, since nothing in there outweighs it.
    obtain ⟨p, hp, hmem⟩ := List.mem_flatMap.mp hleads.mem
    refine List.mem_map.mpr ⟨p, hp, (mostSevereOr_eq_iff (hpart p hp)).mpr ⟨hmem, fun s' hs' => ?_⟩⟩
    exact hleads.weight_le s' (List.mem_flatMap.mpr ⟨p, hp, hs'⟩)
  · rintro s' hs'
    obtain ⟨p, hp, rfl⟩ := List.mem_map.mp hs'
    exact hleads.weight_le _ (List.mem_flatMap.mpr ⟨p, hp, (leads_mostSevereOr p.1 (hpart p hp)).mem⟩)

end RunStatus

/-! ## Outcomes of tests -/

theorem TestStatus.weight_le_iff (a b : TestStatus) : a.severity.weight ≤ b.severity.weight ↔ a.rank ≤ b.rank := by
  cases a <;> cases b <;> decide

namespace RunStatus

theorem mostSevereOr_tests (initial : RunStatus) (tests : List TestStatus) :
    mostSevereOr initial (tests.map TestStatus.toRunStatus) =
      ((tests.argmax TestStatus.rank).map TestStatus.toRunStatus).getD initial := by
  cases hmax : tests.argmax TestStatus.rank with
  | none => rw [List.argmax_eq_none.mp hmax]; rfl
  | some t =>
    have hmem : t ∈ tests := List.argmax_mem hmax
    refine (mostSevereOr_eq_iff (List.ne_nil_of_mem (List.mem_map_of_mem hmem))).mpr ⟨List.mem_map_of_mem hmem, ?_⟩
    intro s hs
    obtain ⟨t', ht', rfl⟩ := List.mem_map.mp hs
    exact (TestStatus.weight_le_iff t' t).mpr (List.le_of_mem_argmax ht' hmax)

/-- Statuses are rolled up to the one of them that no other outweighs, whatever the rollup starts from; only without any
status it is the one that it starts from.  So order and repetitions make no difference, statuses may be rolled up in
parts and these then together, and for outcomes of tests it is the greatest of them in their own order that counts. -/
theorem rollup_is_maximum (initial other : RunStatus) :
    mostSevereOr initial [] = initial ∧
    (∀ statuses, statuses ≠ [] →
      mostSevereOr initial statuses ∈ statuses ∧
        (∀ s ∈ statuses, s.severity.weight ≤ (mostSevereOr initial statuses).severity.weight) ∧
        mostSevereOr initial statuses = mostSevereOr other statuses) ∧
    (∀ xs ys : List RunStatus, (∀ s, s ∈ xs ↔ s ∈ ys) → mostSevereOr initial xs = mostSevereOr initial ys) ∧
    (∀ parts : List (RunStatus × List RunStatus), parts ≠ [] → (∀ p ∈ parts, p.2 ≠ []) →
      mostSevereOr other (parts.flatMap Prod.snd) = mostSevereOr initial (parts.map fun p => mostSevereOr p.1 p.2)) ∧
    ∀ tests : List TestStatus, mostSevereOr initial (tests.map TestStatus.toRunStatus) =
      ((tests.argmax TestStatus.rank).map TestStatus.toRunStatus).getD initial := by
  refine ⟨rfl, fun statuses h => ?_, fun xs ys => mostSevereOr_congr initial, fun parts hparts hpart => ?_,
    mostSevereOr_tests initial⟩
  · obtain ⟨hmem, hle⟩ := leads_mostSevereOr initial h
    exact ⟨hmem, hle, mostSevereOr_of_ne_nil initial other h⟩
  · exact (mostSevereOr_parts initial other hparts hpart).symm

/-- What starts from a failure or from missing data is rolled up to what there is. -/
theorem missing_rolled_up :
    let parts : List (RunStatus × List RunStatus) := [(.failed, [.completed, .running]), (.missing, [.running, .pending])]
    ((∀ p ∈ parts, p.2 ≠ []) ∧ mostSevereOr .failed (parts.map fun p => mostSevereOr p.1 p.2) = .running) ∧
      ((∀ s, s ∈ [running, .missing, .running] ↔ s ∈ [missing, .running]) ∧
        mostSevereOr .failed [.running, .missing, .running] = .missing) ∧
      mostSevereOr .failed [.completed] = mostSevereOr .pending [.completed] ∧
      mostSevereOr .failed ([TestStatus.passed, .warning, .passed].map TestStatus.toRunStatus) =
        .completedWithWarnings := by
  intro parts
  have hfilled : ∀ p ∈ parts, p.2 ≠ [] := by decide
  have hrepeated : ∀ s, s ∈ [running, .missing, .running] ↔ s ∈ [missing, .running] := by
    intro s
    cases s <;> decide
  obtain ⟨-, hleads, hsame, hparts, htests⟩ := rollup_is_maximum .failed .pending
  exact ⟨⟨hfilled, (hparts parts (by decide) hfilled).symm⟩, ⟨hrepeated, hsame _ _ hrepeated⟩,
    (hleads [.completed] (by decide)).2.2, htests [.passed, .warning, .passed]⟩

end RunStatus

end RunWatch
