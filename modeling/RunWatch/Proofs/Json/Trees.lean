import RunWatch.Json.Tree
import RunWatch.Proofs.Json.Members

/-!
# Trees of values

The tree of a value has no part that cannot be read (`isSome_value?_tree`).  A value is `Ordered` if all its
objects list their keys in order; then it is what its tree stands for (`Value.Ordered.value?_tree`).
-/

namespace RunWatch.Json

theorem mem_memberTrees {ms : List (String × Value)} {e : String × Tree} (h : e ∈ Value.memberTrees ms) :
    ∃ m ∈ ms, e = (m.1, m.2.tree) := by
  induction ms with
  | nil => cases h
  | cons m ms ih =>
    rcases List.mem_cons.mp h with rfl | h
    · exact ⟨m, List.mem_cons_self, rfl⟩
    · obtain ⟨m', hm', he⟩ := ih h
      exact ⟨m', List.mem_cons_of_mem m hm', he⟩

/-! ## Readable trees -/

mutual

/-- No part of the tree of a value is unreadable. -/
theorem isSome_value?_tree : (v : Value) → v.tree.value?.isSome
  | .null | .bool _ | .number _ | .string _ => rfl
  | .array items => by
    rw [Value.tree, Tree.value?, Option.isSome_map]
    exact isSome_values?_trees items
  | .object ms => by
    rw [Value.tree, Tree.value?, Option.isSome_map]
    exact isSome_members?_memberTrees ms

theorem isSome_values?_trees : (items : List Value) → (Tree.values? (Value.trees items)).isSome
  | [] => rfl
  | v :: items => by
    obtain ⟨w, hw⟩ := Option.isSome_iff_exists.mp (isSome_value?_tree v)
    obtain ⟨ws, hws⟩ := Option.isSome_iff_exists.mp (isSome_values?_trees items)
    simp [Value.trees, Tree.values?, hw, hws]

theorem isSome_members?_memberTrees :
    (ms : List (String × Value)) → (Tree.members? (Value.memberTrees ms)).isSome
  | [] => rfl
  | (k, v) :: ms => by
    obtain ⟨w, hw⟩ := Option.isSome_iff_exists.mp (isSome_value?_tree v)
    obtain ⟨ws, hws⟩ := Option.isSome_iff_exists.mp (isSome_members?_memberTrees ms)
    simp [Value.memberTrees, Tree.members?, hw, hws]

end

/-! ## Ordered values -/

/-- A value whose objects list their keys in order, at every depth. -/
inductive Value.Ordered : Value → Prop
  | null : Ordered .null
  | bool (b : Bool) : Ordered (.bool b)
  | number (n : Number) : Ordered (.number n)
  | string (s : String) : Ordered (.string s)
  | array {items : List Value} (h : ∀ v ∈ items, Ordered v) : Ordered (.array items)
  | object {ms : Members} (hs : ms.Sorted) (h : ∀ m ∈ ms, Ordered m.2) : Ordered (.object ms)

theorem values?_trees {items : List Value} (h : ∀ v ∈ items, v.tree.value? = some v) :
    Tree.values? (Value.trees items) = some items := by
  induction items with
  | nil => rfl
  | cons v items ih =>
    have hitems := ih fun w hw => h w (List.mem_cons_of_mem v hw)
    simp [Value.trees, Tree.values?, h v List.mem_cons_self, hitems]

theorem members?_memberTrees {ms : Members} (hs : ms.Sorted) (h : ∀ m ∈ ms, m.2.tree.value? = some m.2) :
    Tree.members? (Value.memberTrees ms) = some ms := by
  induction ms with
  | nil => rfl
  | cons m ms ih =>
    obtain ⟨k, v⟩ := m
    obtain ⟨hfirst, hrest⟩ := List.pairwise_cons.mp hs
    have hv : v.tree.value? = some v := h (k, v) List.mem_cons_self
    have hms := ih hrest fun m hm => h m (List.mem_cons_of_mem (k, v) hm)
    have hcontains : Members.contains k ms = false := Members.contains_of_forall_lt hfirst
    have hinsert : Members.insert k v ms = (k, v) :: ms := Members.insert_of_forall_lt hfirst v
    simp [Value.memberTrees, Tree.members?, hv, hms, hcontains, hinsert]

namespace Value.Ordered

theorem value?_tree {v : Value} (h : v.Ordered) : v.tree.value? = some v := by
  induction h with
  | null => rfl
  | bool b => rfl
  | number n => rfl
  | string s => rfl
  | array h ih => rw [tree, Tree.value?, values?_trees ih, Option.map_some]
  | object hs h ih => rw [tree, Tree.value?, members?_memberTrees hs ih, Option.map_some]

theorem members?_object {ms : Members} (h : (Value.object ms).Ordered) :
    Tree.members? (memberTrees ms) = some ms := by
  cases h with
  | object hs h => exact members?_memberTrees hs fun m hm => (h m hm).value?_tree

end Value.Ordered

end RunWatch.Json
