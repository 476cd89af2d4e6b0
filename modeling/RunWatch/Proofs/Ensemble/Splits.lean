import Mathlib.Data.List.Basic

/-!
# Splits of a history

A move splits a history into the moves before it and the moves after it.  Among the moves of some sort, such as
those that bring a party, each is known by how many of its sort stand before it (`History.exists_split`,
`History.eq_of_countP_eq`), and a higher count is a later place (`History.mem_later`).
-/

namespace RunWatch.History

variable {M : Type} {p : M → Bool} {before before' later later' moves : List M} {m m' : M}

/-- A history splits at each of the moves of a sort. -/
theorem exists_split {i : Nat} (h : i < moves.countP p) :
    ∃ before m later, moves = before ++ m :: later ∧ p m = true ∧ before.countP p = i := by
  induction moves generalizing i with
  | nil => exact absurd h (Nat.not_lt_zero i)
  | cons m moves ih =>
    cases hm : p m with
    | false =>
      rw [List.countP_cons_of_neg (by simp [hm])] at h
      obtain ⟨before, m', later, rfl, hm', rfl⟩ := ih h
      exact ⟨m :: before, m', later, rfl, hm', List.countP_cons_of_neg (by simp [hm])⟩
    | true =>
      cases i with
      | zero => exact ⟨[], m, moves, rfl, hm, rfl⟩
      | succ i =>
        rw [List.countP_cons_of_pos hm, Nat.succ_lt_succ_iff] at h
        obtain ⟨before, m', later, rfl, hm', rfl⟩ := ih h
        exact ⟨m :: before, m', later, rfl, hm', List.countP_cons_of_pos hm⟩

/-- Of two moves in one history, the one with more moves of a sort before it stands behind the other. -/
theorem mem_later (h : before ++ m :: later = before' ++ m' :: later')
    (hlt : before.countP p < before'.countP p) : m' ∈ later := by
  obtain ⟨extra, rfl, hm⟩ | ⟨extra, rfl, -⟩ := List.append_eq_append_iff.mp h
  · cases extra with
    | nil => exact absurd hlt (by simp)
    | cons x extra =>
      obtain ⟨-, rfl⟩ := List.cons.inj hm
      exact List.mem_append_right extra List.mem_cons_self
  · rw [List.countP_append] at hlt
    omega

/-- Two moves of a sort with equally many of that sort before them are one. -/
theorem eq_of_countP_eq (h : before ++ m :: later = before' ++ m' :: later') (hm : p m = true) (hm' : p m' = true)
    (heq : before.countP p = before'.countP p) : m = m' := by
  obtain ⟨extra, rfl, hrest⟩ | ⟨extra, rfl, hrest⟩ := List.append_eq_append_iff.mp h
  · cases extra with
    | nil => exact (List.cons.inj hrest).1
    | cons x extra =>
      obtain ⟨rfl, -⟩ := List.cons.inj hrest
      simp [hm] at heq
  · cases extra with
    | nil => exact (List.cons.inj hrest).1.symm
    | cons x extra =>
      obtain ⟨rfl, -⟩ := List.cons.inj hrest
      simp [hm'] at heq

/-- A move of a history is its last one or stands before it. -/
theorem concat_cases (h : moves ++ [m] = before ++ m' :: later) :
    (before = moves ∧ m = m' ∧ later = []) ∨
      ∃ later', later = later' ++ [m] ∧ moves = before ++ m' :: later' := by
  obtain rfl | ⟨later', m'', rfl⟩ := List.eq_nil_or_concat later
  · obtain ⟨rfl, hm⟩ := List.append_inj' h rfl
    exact .inl ⟨rfl, (List.cons.inj hm).1, rfl⟩
  · rw [List.concat_eq_append, ← List.cons_append, ← List.append_assoc] at h
    obtain ⟨rfl, hm⟩ := List.append_inj' h rfl
    obtain rfl := (List.cons.inj hm).1
    exact .inr ⟨later', List.concat_eq_append, rfl⟩

end RunWatch.History
