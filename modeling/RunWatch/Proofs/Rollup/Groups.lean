import RunWatch.Proofs.Rollup.Alerts

/-!
# Groups leave nothing out

Runs are grouped by their pipelines, test outcomes by their components and alerts by their levels, one item after the
other.  `Groups.Sorts` is all that groups by component say of the items they were made from, `AlertBoard.Sorts` the same
of an alert board: every item is in the group that it belongs to, the items of a group stand in the order they came, and
the sizes add up.  One more item keeps it (`Groups.Sorts.push`).  As each group depends on its own items alone, the
groups of two lists of items are those of the first followed by those of the second.
-/

namespace RunWatch

namespace Groups

variable {R : Type}

/-- The keys that there are groups for. -/
def keys (groups : Groups R) : List Uuid :=
  groups.map Prod.fst

/-- The items of a key; none if it has no group. -/
def group (groups : Groups R) (key : Uuid) : List R :=
  (groups.find? key).getD []

variable {groups : Groups R}

theorem keys_cons (k : Uuid) (items : List R) (rest : Groups R) : keys ((k, items) :: rest) = k :: keys rest := rfl

theorem group_cons (k key : Uuid) (items : List R) (rest : Groups R) :
    group ((k, items) :: rest) key = if k = key then items else group rest key := by
  by_cases h : k = key
  · simp [group, find?, h]
  · simp [group, find?, h]

/-- As no key has two groups, a group is what is found under its key. -/
theorem group_of_mem (hkeys : groups.keys.Nodup) {g : Uuid × List R} (hg : g ∈ groups) : groups.group g.1 = g.2 := by
  induction groups with
  | nil => exact absurd hg List.not_mem_nil
  | cons first rest ih =>
    obtain ⟨k, items⟩ := first
    obtain ⟨hfirst, hrest⟩ := List.nodup_cons.mp hkeys
    rw [group_cons]
    rcases List.mem_cons.mp hg with rfl | hg
    · exact if_pos rfl
    · have hother : k ≠ g.1 := fun heq => hfirst (List.mem_map.mpr ⟨g, hg, heq.symm⟩)
      rw [if_neg hother, ih hrest hg]

/-! ## One more item -/

theorem keys_push (key : Uuid) (item : R) (groups : Groups R) :
    (push key item groups).keys = if key ∈ groups.keys then groups.keys else groups.keys ++ [key] := by
  induction groups with
  | nil => rfl
  | cons first rest ih =>
    obtain ⟨k, items⟩ := first
    rw [push]
    split
    · next heq => simp [keys_cons, heq]
    · next hne =>
      rw [keys_cons, ih, keys_cons]
      by_cases hmem : key ∈ keys rest
      · simp [hmem]
      · simp [hmem, Ne.symm hne]

theorem group_push (key k : Uuid) (item : R) (groups : Groups R) :
    (push key item groups).group k = if key = k then groups.group k ++ [item] else groups.group k := by
  induction groups with
  | nil => exact group_cons key k [item] []
  | cons first rest ih =>
    obtain ⟨k', items⟩ := first
    rw [push, group_cons]
    split
    · next heq =>
      subst heq
      rw [group_cons]
      by_cases hk : k' = k <;> simp [hk]
    · next hne =>
      rw [group_cons, ih]
      by_cases hk : k' = k
      · simp [hk, hk ▸ Ne.symm hne]
      · simp [hk]

theorem sum_push (key : Uuid) (item : R) (groups : Groups R) :
    ((push key item groups).map fun g => g.2.length).sum = (groups.map fun g => g.2.length).sum + 1 := by
  induction groups with
  | nil => rfl
  | cons first rest ih =>
    obtain ⟨k, items⟩ := first
    rw [push]
    split
    · simp only [List.map_cons, List.sum_cons, List.length_append, List.length_singleton]
      omega
    · simp only [List.map_cons, List.sum_cons, ih]
      omega

/-! ## All items -/

/-- Groups of some items: each key that an item has comes up once, its group has the items with this key in the order
they came, and there are no other groups. -/
structure Sorts (groups : Groups R) (key : R → Uuid) (items : List R) : Prop where
  nodup_keys : groups.keys.Nodup
  mem_keys : ∀ k, k ∈ groups.keys ↔ ∃ item ∈ items, key item = k
  group_eq : ∀ k, groups.group k = items.filter fun item => key item = k
  mem_eq : ∀ g ∈ groups, g.2 = items.filter fun item => key item = g.1
  ne_nil : ∀ g ∈ groups, g.2 ≠ []
  sum_length : (groups.map fun g => g.2.length).sum = items.length

variable {key : R → Uuid} {items xs ys : List R}

/-- It is enough to know which keys there are and what is found under each. -/
theorem Sorts.of_group_eq (hnodup : groups.keys.Nodup) (hkeys : ∀ k, k ∈ groups.keys ↔ ∃ item ∈ items, key item = k)
    (hgroup : ∀ k, groups.group k = items.filter fun item => key item = k)
    (hsum : (groups.map fun g => g.2.length).sum = items.length) : groups.Sorts key items where
  nodup_keys := hnodup
  mem_keys := hkeys
  group_eq := hgroup
  mem_eq g hg := (group_of_mem hnodup hg).symm.trans (hgroup g.1)
  ne_nil g hg := by
    obtain ⟨item, hitem, hkey⟩ := (hkeys g.1).mp (List.mem_map_of_mem hg)
    rw [← group_of_mem hnodup hg, hgroup]
    exact List.ne_nil_of_mem (List.mem_filter.mpr ⟨hitem, decide_eq_true hkey⟩)
  sum_length := hsum

theorem Sorts.push (h : groups.Sorts key items) (item : R) :
    (Groups.push (key item) item groups).Sorts key (items ++ [item]) := by
  refine .of_group_eq ?nodup (fun k => ?keys) (fun k => ?group) ?sum
  case nodup =>
    rw [keys_push]
    split
    · exact h.nodup_keys
    · next hnew =>
      have hapart : ∀ k ∈ groups.keys, k ≠ key item := fun k hk heq => hnew (heq ▸ hk)
      exact List.nodup_append.mpr ⟨h.nodup_keys, List.pairwise_singleton _ _, by simpa using hapart⟩
  case keys =>
    have hconcat : (∃ other ∈ items ++ [item], key other = k) ↔ k ∈ groups.keys ∨ key item = k := by
      simp [h.mem_keys, or_and_right, exists_or]
    rw [hconcat, keys_push]
    split
    · next hold => exact ⟨Or.inl, fun hk => hk.elim id fun heq => heq ▸ hold⟩
    · rw [List.mem_append, List.mem_singleton, eq_comm]
  case group =>
    rw [group_push, h.group_eq, List.filter_append]
    by_cases hk : key item = k
    · simp [hk]
    · simp [hk]
  case sum => rw [sum_push, h.sum_length, List.length_append, List.length_singleton]

theorem sorts_ofList (key : R → Uuid) (items : List R) : (ofList key items).Sorts key items := by
  induction items using List.reverseRecOn with
  | nil => exact .of_group_eq .nil (fun k => by simp [ofList, keys]) (fun k => rfl) rfl
  | append_singleton items item ih =>
    rw [ofList, List.foldl_append]
    exact ih.push item

/-- Groups of the items that two others are of, those of the first in front in each of them. -/
structure Joins (groups first second : Groups R) : Prop where
  mem_keys : ∀ k, k ∈ groups.keys ↔ k ∈ first.keys ∨ k ∈ second.keys
  group_eq : ∀ k, groups.group k = first.group k ++ second.group k

theorem Sorts.joins {first second : Groups R} (h : groups.Sorts key (xs ++ ys)) (hfirst : first.Sorts key xs)
    (hsecond : second.Sorts key ys) : groups.Joins first second where
  mem_keys k := by
    simp only [h.mem_keys, hfirst.mem_keys, hsecond.mem_keys, List.mem_append, or_and_right, exists_or]
  group_eq k := by
    rw [h.group_eq, hfirst.group_eq, hsecond.group_eq, List.filter_append]

end Groups

namespace AlertBoard

open AlertGroup (ofLevel)

/-- An alert board of some alerts: each group has the alerts of its level in the order they came and counts them by
what they stand for, and the two together count all alerts. -/
structure Sorts (b : AlertBoard) (alerts : List Alert) : Prop where
  errors : b.errors = ofLevel .error alerts
  warnings : b.warnings = ofLevel .warning alerts
  total : b.total = (alerts.map fun a => a.count.toNat).sum

theorem sorts_ofAlerts (alerts : List Alert) : (ofAlerts alerts).Sorts alerts where
  errors := congrArg AlertBoard.errors (ofAlerts_eq alerts)
  warnings := congrArg AlertBoard.warnings (ofAlerts_eq alerts)
  total := total_ofAlerts alerts

/-- The board of the alerts that two others are of, those of the first in front in both groups. -/
structure Joins (b first second : AlertBoard) : Prop where
  errors : b.errors = first.errors.followedBy second.errors
  warnings : b.warnings = first.warnings.followedBy second.warnings

variable {b first second : AlertBoard} {xs ys : List Alert}

theorem Sorts.joins (h : b.Sorts (xs ++ ys)) (hfirst : first.Sorts xs) (hsecond : second.Sorts ys) :
    b.Joins first second where
  errors := by rw [h.errors, hfirst.errors, hsecond.errors, AlertGroup.ofLevel_append]
  warnings := by rw [h.warnings, hfirst.warnings, hsecond.warnings, AlertGroup.ofLevel_append]

end AlertBoard

/-- Grouping loses nothing and has nothing twice: groups of runs, of test outcomes and of alerts have every item in the
group that it belongs to, in the order they came, and their sizes and counts add up to those of all items.  Items that
come behind others come behind them in their group, so the groups of two lists can be had from those of each. -/
theorem grouping_loses_nothing :
    ((∀ runs, (runsByComponent runs).Sorts (fun r => r.pipeline.id) runs) ∧
      (∀ tests, (testsByComponent tests).Sorts (fun t => t.component.id) tests) ∧
      ∀ alerts, (AlertBoard.ofAlerts alerts).Sorts alerts) ∧
    (∀ xs ys, (runsByComponent (xs ++ ys)).Joins (runsByComponent xs) (runsByComponent ys)) ∧
    (∀ xs ys, (testsByComponent (xs ++ ys)).Joins (testsByComponent xs) (testsByComponent ys)) ∧
    ∀ xs ys, (AlertBoard.ofAlerts (xs ++ ys)).Joins (AlertBoard.ofAlerts xs) (AlertBoard.ofAlerts ys) := by
  have hruns (runs : List Run) : (runsByComponent runs).Sorts (fun r => r.pipeline.id) runs := Groups.sorts_ofList _ runs
  have htests (tests : List TestOutcome) : (testsByComponent tests).Sorts (fun t => t.component.id) tests :=
    Groups.sorts_ofList _ tests
  have halerts := AlertBoard.sorts_ofAlerts
  exact
    ⟨⟨hruns, htests, halerts⟩,
      fun xs ys => (hruns (xs ++ ys)).joins (hruns xs) (hruns ys),
      fun xs ys => (htests (xs ++ ys)).joins (htests xs) (htests ys),
      fun xs ys => (halerts (xs ++ ys)).joins (halerts xs) (halerts ys)⟩

end RunWatch
