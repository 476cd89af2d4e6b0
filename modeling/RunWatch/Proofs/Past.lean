import Mathlib.Data.List.Infix

/-!
# Lists with their past

Much of what is said about a row of things compares each of them with those before it.  `withPast` puts these beside it.
-/

namespace RunWatch

variable {α : Type}

/-- The elements of a list, each with the elements before it. -/
def withPast (xs : List α) : List (List α × α) :=
  xs.inits.zip xs

theorem withPast_cons (x : α) (xs : List α) :
    withPast (x :: xs) = ([], x) :: (withPast xs).map fun p => (x :: p.1, p.2) := by
  rw [withPast, List.inits_cons, List.zip_cons_cons, List.zip_map_left]
  rfl

theorem withPast_concat (xs : List α) (x : α) : withPast (xs ++ [x]) = withPast xs ++ [(xs, x)] := by
  induction xs with
  | nil => rfl
  | cons y xs ih => rw [List.cons_append, withPast_cons, ih, withPast_cons, List.map_append, List.map_singleton,
      List.cons_append]

theorem mem_withPast {past xs : List α} {x : α} : (past, x) ∈ withPast xs ↔ ∃ rest, xs = past ++ x :: rest := by
  induction xs generalizing past with
  | nil =>
    refine iff_of_false List.not_mem_nil ?_
    rintro ⟨rest, h⟩
    simp at h
  | cons y xs ih =>
    rw [withPast_cons, List.mem_cons, List.mem_map]
    constructor
    · rintro (h | ⟨⟨past, x'⟩, hmem, h⟩)
      · obtain ⟨rfl, rfl⟩ := Prod.mk.inj h
        exact ⟨xs, rfl⟩
      · obtain ⟨rfl, rfl⟩ := Prod.mk.inj h
        obtain ⟨rest, rfl⟩ := ih.mp hmem
        exact ⟨rest, rfl⟩
    · rintro ⟨rest, h⟩
      cases past with
      | nil =>
        obtain ⟨rfl, rfl⟩ := List.cons.inj h
        exact .inl rfl
      | cons y' past =>
        obtain ⟨rfl, rfl⟩ := List.cons.inj h
        exact .inr ⟨(past, x), ih.mpr ⟨rest, rfl⟩, rfl⟩

/-- An element is in the past of those behind it. -/
theorem pairwise_withPast (xs : List α) : (withPast xs).Pairwise fun p q => p.2 ∈ q.1 := by
  induction xs with
  | nil => exact .nil
  | cons x xs ih =>
    rw [withPast_cons, List.pairwise_cons, List.pairwise_map]
    refine ⟨fun q hq => ?_, ih.imp (List.mem_cons_of_mem x)⟩
    obtain ⟨p, -, rfl⟩ := List.mem_map.mp hq
    exact List.mem_cons_self

end RunWatch
