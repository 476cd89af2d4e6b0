import Mathlib.Data.List.Induction
import Mathlib.Data.List.Nodup
import Mathlib.Data.String.Basic
import RunWatch.Json.Value

/-!
# Members of an object

What `insert`, `erase` and `ofList` do to the value of each key and to the order of the keys.  Members are
`Sorted` if their keys ascend, which the three of them keep, and then the values of the keys say everything
(`Sorted.ext`).  `LeavesOut` compares an object with a larger one, and `addAll` makes it whole again.
-/

namespace RunWatch.Json.Members

/-- Members whose keys ascend. -/
def Sorted (ms : Members) : Prop :=
  ms.Pairwise fun m m' => m.1 < m'.1

theorem sorted_nil : Sorted [] :=
  .nil

/-! ## The value of a key -/

theorem find?_cons (key key' : String) (value : Value) (ms : Members) :
    find? key' ((key, value) :: ms) = if key = key' then some value else find? key' ms := by
  by_cases h : key = key'
  · simp [find?, h]
  · simp [find?, h]

theorem find?_insert (key key' : String) (value : Value) (ms : Members) :
    (ms.insert key value).find? key' = if key = key' then some value else ms.find? key' := by
  induction ms with
  | nil => exact find?_cons key key' value []
  | cons m ms ih =>
    obtain ⟨k, v⟩ := m
    unfold insert
    by_cases hlt : key < k
    · rw [if_pos hlt, find?_cons]
    · by_cases heq : key = k
      · subst heq
        rw [if_neg hlt, if_pos rfl, find?_cons, find?_cons]
        by_cases h : key = key'
        · rw [if_pos h, if_pos h]
        · rw [if_neg h, if_neg h, if_neg h]
      · rw [if_neg hlt, if_neg heq, find?_cons, find?_cons, ih]
        by_cases h : key = key'
        · rw [if_pos h, if_pos h, if_neg fun hk => heq (h.trans hk.symm)]
        · rw [if_neg h, if_neg h]

/-- Members may be kept or not by their keys. -/
theorem find?_filter (p : String → Bool) (key : String) (ms : Members) :
    find? key (ms.filter (p ·.1)) = if p key then ms.find? key else none := by
  induction ms with
  | nil => exact (ite_self none).symm
  | cons m ms ih =>
    obtain ⟨k, v⟩ := m
    rw [List.filter_cons]
    by_cases hk : k = key
    · subst hk
      by_cases hp : p k = true
      · rw [if_pos hp, if_pos hp, find?_cons, find?_cons, if_pos rfl, if_pos rfl]
      · rw [if_neg hp, ih, if_neg hp, if_neg hp]
    · by_cases hp : p k = true
      · rw [if_pos hp, find?_cons, find?_cons, if_neg hk, if_neg hk, ih]
      · rw [if_neg hp, find?_cons, if_neg hk, ih]

theorem find?_erase (key key' : String) (ms : Members) :
    (ms.erase key).find? key' = if key' = key then none else ms.find? key' := by
  refine (find?_filter (fun k => decide (k ≠ key)) key' ms).trans ?_
  simp only [decide_eq_true_eq, ite_not]

theorem find?_erase_self (key : String) (ms : Members) : (ms.erase key).find? key = none :=
  (find?_erase key key ms).trans (if_pos rfl)

theorem find?_erase_of_ne {key key' : String} (h : key' ≠ key) (ms : Members) :
    (ms.erase key).find? key' = ms.find? key' :=
  (find?_erase key key' ms).trans (if_neg h)

theorem erase_eq_self {key : String} {ms : Members} (h : ms.contains key = false) : ms.erase key = ms := by
  refine List.filter_eq_self.mpr fun m hm => ?_
  simpa using List.any_eq_false.mp h m hm

theorem find?_eq_none_of_contains {key : String} {ms : Members} (h : ms.contains key = false) :
    ms.find? key = none := by
  have h' : List.find? (fun m => m.1 = key) ms = none := by
    rw [List.find?_eq_none]
    intro m hm
    simpa using List.any_eq_false.mp h m hm
  rw [find?, h', Option.map_none]

theorem contains_of_find? {key : String} {ms : Members} (h : ms.find? key = none) : ms.contains key = false := by
  have h' := List.find?_eq_none.mp (Option.map_eq_none_iff.mp h)
  exact List.any_eq_false.mpr fun m hm => by simpa using h' m hm

theorem mem_of_find? {key : String} {ms : Members} {value : Value} (h : ms.find? key = some value) :
    ∃ m ∈ ms, m.2 = value := by
  obtain ⟨m, hm, hvalue⟩ := Option.map_eq_some_iff.mp h
  exact ⟨m, List.mem_of_find?_eq_some hm, hvalue⟩

theorem mem_insert {key : String} {value : Value} {ms : Members} {m : String × Value}
    (h : m ∈ ms.insert key value) : m = (key, value) ∨ m ∈ ms := by
  induction ms with
  | nil => exact .inl (List.mem_singleton.mp h)
  | cons m' ms ih =>
    obtain ⟨k, v⟩ := m'
    unfold insert at h
    by_cases hlt : key < k
    · rw [if_pos hlt] at h
      exact List.mem_cons.mp h
    · by_cases heq : key = k
      · rw [if_neg hlt, if_pos heq] at h
        rcases List.mem_cons.mp h with h | h
        · exact .inl h
        · exact .inr (List.mem_cons_of_mem _ h)
      · rw [if_neg hlt, if_neg heq] at h
        rcases List.mem_cons.mp h with rfl | h
        · exact .inr List.mem_cons_self
        · exact (ih h).imp_right (List.mem_cons_of_mem _)

theorem forall_mem_insert {P : String × Value → Prop} {key : String} {value : Value} {ms : Members}
    (hms : ∀ m ∈ ms, P m) (hnew : P (key, value)) : ∀ m ∈ ms.insert key value, P m := by
  intro m hm
  rcases mem_insert hm with rfl | hm
  · exact hnew
  · exact hms m hm

theorem forall_mem_erase {P : String × Value → Prop} {ms : Members} (hms : ∀ m ∈ ms, P m) (key : String) :
    ∀ m ∈ ms.erase key, P m :=
  fun m hm => hms m (List.mem_of_mem_filter hm)

/-! ## The order of the keys -/

/-- A key in front of all others is put in front. -/
theorem insert_of_forall_lt {key : String} {ms : Members} (h : ∀ m ∈ ms, key < m.1) (value : Value) :
    ms.insert key value = (key, value) :: ms := by
  cases ms with
  | nil => rfl
  | cons m ms => exact if_pos (h m List.mem_cons_self)

theorem contains_of_forall_lt {key : String} {ms : Members} (h : ∀ m ∈ ms, key < m.1) :
    ms.contains key = false := by
  refine List.any_eq_false.mpr fun m hm => ?_
  simpa using ne_of_gt (h m hm)

theorem Sorted.insert {ms : Members} (h : ms.Sorted) (key : String) (value : Value) :
    (ms.insert key value).Sorted := by
  induction ms with
  | nil => exact List.pairwise_singleton _ _
  | cons m ms ih =>
    obtain ⟨k, v⟩ := m
    obtain ⟨hfirst, hrest⟩ := List.pairwise_cons.mp h
    unfold Members.insert
    by_cases hlt : key < k
    · rw [if_pos hlt]
      refine List.pairwise_cons.mpr ⟨fun m hm => ?_, h⟩
      rcases List.mem_cons.mp hm with rfl | hm
      · exact hlt
      · exact lt_trans hlt (hfirst m hm)
    · by_cases heq : key = k
      · rw [if_neg hlt, if_pos heq]
        exact List.pairwise_cons.mpr ⟨fun m hm => heq ▸ hfirst m hm, hrest⟩
      · rw [if_neg hlt, if_neg heq]
        exact List.pairwise_cons.mpr
          ⟨forall_mem_insert hfirst (lt_of_le_of_ne (not_lt.mp hlt) (Ne.symm heq)), ih hrest⟩

theorem Sorted.erase {ms : Members} (h : ms.Sorted) (key : String) : (ms.erase key).Sorted :=
  h.filter _

theorem ofList_concat (ms : List (String × Value)) (m : String × Value) :
    ofList (ms ++ [m]) = (ofList ms).insert m.1 m.2 :=
  List.foldl_append

theorem sorted_ofList (ms : List (String × Value)) : (ofList ms).Sorted := by
  induction ms using List.reverseRecOn with
  | nil => exact sorted_nil
  | append_singleton ms m ih =>
    rw [ofList_concat]
    exact ih.insert m.1 m.2

theorem mem_ofList {ms : List (String × Value)} {m : String × Value} (h : m ∈ ofList ms) : m ∈ ms := by
  induction ms using List.reverseRecOn with
  | nil => exact absurd h List.not_mem_nil
  | append_singleton ms m' ih =>
    rw [ofList_concat] at h
    rcases mem_insert h with rfl | h
    · exact List.mem_append_right _ List.mem_cons_self
    · exact List.mem_append_left _ (ih h)

/-- If no key is given twice, each keeps its value. -/
theorem find?_ofList {ms : List (String × Value)} (hkeys : (ms.map Prod.fst).Nodup) {m : String × Value}
    (hm : m ∈ ms) : (ofList ms).find? m.1 = some m.2 := by
  induction ms using List.reverseRecOn with
  | nil => exact absurd hm List.not_mem_nil
  | append_singleton ms m' ih =>
    rw [List.map_append, List.nodup_append] at hkeys
    obtain ⟨hms, -, hnew⟩ := hkeys
    rw [ofList_concat, find?_insert]
    rcases List.mem_append.mp hm with hm | hm
    · have hne : m'.1 ≠ m.1 := fun h => hnew m.1 (List.mem_map_of_mem hm) m'.1 (by simp) h.symm
      rw [if_neg hne]
      exact ih hms hm
    · obtain rfl := List.mem_singleton.mp hm
      rw [if_pos rfl]

theorem mem_keys_insert (key k : String) (value : Value) (ms : Members) :
    k ∈ (ms.insert key value).map Prod.fst ↔ k = key ∨ k ∈ ms.map Prod.fst := by
  induction ms with
  | nil => simp [insert]
  | cons m ms ih =>
    obtain ⟨k', v⟩ := m
    unfold insert
    by_cases hlt : key < k'
    · rw [if_pos hlt, List.map_cons, List.mem_cons]
    · by_cases heq : key = k'
      · rw [if_neg hlt, if_pos heq, List.map_cons, List.map_cons, List.mem_cons, List.mem_cons, ← heq, or_self_left]
      · rw [if_neg hlt, if_neg heq, List.map_cons, List.mem_cons, ih, List.map_cons, List.mem_cons]
        exact or_left_comm

theorem mem_keys_ofList (k : String) (ms : List (String × Value)) :
    k ∈ (ofList ms).map Prod.fst ↔ k ∈ ms.map Prod.fst := by
  induction ms using List.reverseRecOn with
  | nil => rfl
  | append_singleton ms m ih =>
    rw [ofList_concat, mem_keys_insert, ih, List.map_append, List.mem_append, List.map_singleton,
      List.mem_singleton, or_comm]

theorem Sorted.keys {ms : Members} (h : ms.Sorted) : (ms.map Prod.fst).Pairwise (· < ·) :=
  List.pairwise_map.mpr h

theorem Sorted.nodup_keys {ms : Members} (h : ms.Sorted) : (ms.map Prod.fst).Nodup :=
  h.keys.imp ne_of_lt

theorem keys_ofList_perm {ms : List (String × Value)} (h : (ms.map Prod.fst).Nodup) :
    ((ofList ms).map Prod.fst).Perm (ms.map Prod.fst) :=
  (List.perm_ext_iff_of_nodup (sorted_ofList ms).nodup_keys h).mpr fun k => mem_keys_ofList k ms

theorem Sorted.find?_eq_some {ms : Members} (h : ms.Sorted) {key : String} {value : Value} :
    ms.find? key = some value ↔ (key, value) ∈ ms := by
  induction ms with
  | nil => simp [find?]
  | cons m ms ih =>
    obtain ⟨k, v⟩ := m
    obtain ⟨hfirst, hrest⟩ := List.pairwise_cons.mp h
    rw [find?_cons, List.mem_cons, Prod.mk.injEq]
    by_cases hk : k = key
    · subst hk
      have hnew : (k, value) ∉ ms := fun hm => lt_irrefl k (hfirst _ hm)
      simp [hnew, eq_comm]
    · simp [hk, Ne.symm hk, ih hrest]

/-- Members are known by the values of their keys. -/
theorem Sorted.ext {ms ms' : Members} (h : ms.Sorted) (h' : ms'.Sorted)
    (hfind : ∀ key, ms.find? key = ms'.find? key) : ms = ms' := by
  have hmem (m : String × Value) : m ∈ ms ↔ m ∈ ms' := by
    rw [← h.find?_eq_some, ← h'.find?_eq_some, hfind]
  have hnodup : ms.Nodup := List.Nodup.of_map Prod.fst h.nodup_keys
  have hnodup' : ms'.Nodup := List.Nodup.of_map Prod.fst h'.nodup_keys
  have hperm : ms.Perm ms' := (List.perm_ext_iff_of_nodup hnodup hnodup').mpr hmem
  exact hperm.eq_of_pairwise (fun _ _ _ _ hlt hgt => absurd hlt (lt_asymm hgt)) h h'

/-! ## Members left out and added -/

/-- An object leaves out some keys of another: it has all its other keys, in the same order and with the same
values. -/
def LeavesOut (ms : Members) (keys : List String) (full : Members) : Prop :=
  ms.map Prod.fst = (full.map Prod.fst).filter (· ∉ keys) ∧ ∀ key ∉ keys, ms.find? key = full.find? key

/-- Members with others added to them, which count where a key is among both. -/
def addAll (ms more : Members) : Members :=
  more.foldl (fun ms m => ms.insert m.1 m.2) ms

/-- One key erased after the other, members are left whose key is none of them. -/
theorem foldl_erase (keys : List String) (ms : Members) :
    keys.foldl (fun ms key => erase key ms) ms = ms.filter fun m => m.1 ∉ keys := by
  induction keys generalizing ms with
  | nil => simp
  | cons key keys ih =>
    rw [List.foldl_cons, ih, erase, List.filter_filter]
    refine List.filter_congr fun m _ => ?_
    simp [Bool.and_comm]

theorem leavesOut_filter (keys : List String) (full : Members) :
    LeavesOut (full.filter fun m => m.1 ∉ keys) keys full := by
  refine ⟨?_, fun key hkey => ?_⟩
  · rw [List.filter_map]
    rfl
  · exact (find?_filter (fun k => decide (k ∉ keys)) key full).trans (if_pos (decide_eq_true hkey))

theorem sorted_addAll {ms : Members} (h : ms.Sorted) (more : Members) : (ms.addAll more).Sorted := by
  induction more generalizing ms with
  | nil => exact h
  | cons m more ih => exact ih (h.insert m.1 m.2)

theorem find?_addAll {more : Members} (h : more.Sorted) (key : String) (ms : Members) :
    (ms.addAll more).find? key = (more.find? key).or (ms.find? key) := by
  induction more generalizing ms with
  | nil => rfl
  | cons m more ih =>
    obtain ⟨hfirst, hrest⟩ := List.pairwise_cons.mp h
    have hnew := find?_eq_none_of_contains (contains_of_forall_lt hfirst)
    rw [addAll, List.foldl_cons, ← addAll, ih hrest, find?_insert, find?_cons]
    by_cases hkey : m.1 = key
    · subst hkey
      rw [if_pos rfl, if_pos rfl, hnew]
      rfl
    · rw [if_neg hkey, if_neg hkey]

/-- What was left out makes an object whole again. -/
theorem addAll_filter {full : Members} (h : full.Sorted) (keys : List String) :
    addAll (full.filter fun m => m.1 ∉ keys) (full.filter fun m => m.1 ∈ keys) = full := by
  refine Sorted.ext (sorted_addAll (h.filter _) _) h fun key => ?_
  have hback := find?_filter (fun k => decide (k ∈ keys)) key full
  have hsent := find?_filter (fun k => decide (k ∉ keys)) key full
  rw [find?_addAll (h.filter _), hback, hsent]
  by_cases hkey : key ∈ keys
  · simp [hkey]
  · simp [hkey]

/-! ## Zero without a sign -/

theorem plainMembers_eq_self {ms : List (String × Value)} (h : ∀ m ∈ ms, m.2.plain = m.2) :
    Value.plainMembers ms = ms := by
  induction ms with
  | nil => rfl
  | cons m ms ih =>
    obtain ⟨k, v⟩ := m
    have hv : v.plain = v := h (k, v) List.mem_cons_self
    have hms := ih fun m hm => h m (List.mem_cons_of_mem (k, v) hm)
    rw [Value.plainMembers, hv, hms]

/-- An object is as it is with zero in place of minus zero if its members are. -/
theorem plain_ofMembers {ms : List (String × Value)} (h : ∀ m ∈ ms, m.2.plain = m.2) :
    (Value.ofMembers ms).plain = Value.ofMembers ms := by
  have hms := plainMembers_eq_self fun m hm => h m (mem_ofList hm)
  rw [Value.ofMembers, Value.plain, hms]

end RunWatch.Json.Members
