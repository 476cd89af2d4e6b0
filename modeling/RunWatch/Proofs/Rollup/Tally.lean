import Mathlib.Algebra.GroupWithZero.Nat
import Mathlib.Data.List.Induction
import Mathlib.Data.List.Sort
import RunWatch.Rollup.Tally

/-!
# What a tally says of its rows

`Tally.Tallies` is all that a tally says of some rows: which statuses it has entries for, what they are, and that its
total is the sum of both the entries and the rows.  Every row that is added keeps it (`Tallies.add`).  As the entries
stand in the order of their statuses, rows in another order come to the same tally (`Tallies.eq_of_perm`), and rows
behind each other to the sum of their tallies (`Tallies.isSum`).
-/

namespace RunWatch

theorem RunStatus.rank_injective : Function.Injective (StatusKey.rank (S := RunStatus)) := by
  intro a b
  cases a <;> cases b <;> decide

theorem TestStatus.rank_injective : Function.Injective (StatusKey.rank (S := TestStatus)) := by
  intro a b
  cases a <;> cases b <;> decide

namespace Tally

variable {S : Type} [StatusKey S]

/-! ## Entries -/

/-- The count that an entry gives for a status, if there is one. -/
def countOf? (status : S) (counts : List (S × Nat)) : Option Nat :=
  (counts.find? fun e => e.1 == status).map Prod.snd

/-- Entries in the order of their statuses, one for each. -/
def Ascending (counts : List (S × Nat)) : Prop :=
  counts.Pairwise fun e e' => StatusKey.rank e.1 < StatusKey.rank e'.1

variable {counts counts' : List (S × Nat)}

theorem countOf?_cons (status s : S) (n : Nat) (rest : List (S × Nat)) :
    countOf? status ((s, n) :: rest) = if s == status then some n else countOf? status rest := by
  by_cases h : s == status
  · simp [countOf?, h]
  · simp [countOf?, h]

theorem countOf?_eq_none {status : S} : countOf? status counts = none ↔ status ∉ counts.map Prod.fst := by
  simp only [countOf?, Option.map_eq_none_iff, List.find?_eq_none, beq_iff_eq, List.mem_map, not_exists, not_and]

theorem Ascending.mem_iff (h : Ascending counts) (s : S) (n : Nat) : (s, n) ∈ counts ↔ countOf? s counts = some n := by
  induction counts with
  | nil => simp [countOf?]
  | cons e rest ih =>
    obtain ⟨k, m⟩ := e
    obtain ⟨hfirst, hrest⟩ := List.pairwise_cons.mp h
    rw [countOf?_cons, List.mem_cons, Prod.mk.injEq, ih hrest]
    by_cases hk : k = s
    · subst hk
      have hlater : countOf? k rest = none :=
        countOf?_eq_none.mpr fun hmem => by
          obtain ⟨e, he, hkey⟩ := List.mem_map.mp hmem
          exact absurd (hfirst e he) (by rw [hkey]; exact Nat.lt_irrefl _)
      simp [hlater, eq_comm]
    · simp [hk, Ne.symm hk]

theorem Ascending.ext (h : Ascending counts) (h' : Ascending counts')
    (hcount : ∀ s, countOf? s counts = countOf? s counts') : counts = counts' := by
  have hirrefl : Std.Irrefl fun e e' : S × Nat => StatusKey.rank e.1 < StatusKey.rank e'.1 :=
    ⟨fun _ => Nat.lt_irrefl _⟩
  have hantisymm : Std.Antisymm fun e e' : S × Nat => StatusKey.rank e.1 < StatusKey.rank e'.1 :=
    ⟨fun _ _ hlt hgt => absurd hlt (Nat.lt_asymm hgt)⟩
  refine List.Pairwise.eq_of_mem_iff h h' fun e => ?_
  rw [h.mem_iff, h'.mem_iff, hcount]

/-! ## One more row -/

theorem mem_addTo (status s : S) (n : Nat) (counts : List (S × Nat)) :
    s ∈ (addTo status n counts).map Prod.fst ↔ s = status ∨ s ∈ counts.map Prod.fst := by
  induction counts with
  | nil => simp [addTo]
  | cons e rest ih =>
    obtain ⟨k, m⟩ := e
    rw [addTo]
    split
    · next heq =>
      obtain rfl := eq_of_beq heq
      simp
    · split
      · simp
      · rw [List.map_cons, List.mem_cons, ih, List.map_cons, List.mem_cons, or_left_comm]

theorem sum_addTo (status : S) (n : Nat) (counts : List (S × Nat)) :
    ((addTo status n counts).map Prod.snd).sum = (counts.map Prod.snd).sum + n := by
  induction counts with
  | nil => simp [addTo]
  | cons e rest ih =>
    obtain ⟨k, m⟩ := e
    rw [addTo]
    split
    · simp only [List.map_cons, List.sum_cons]
      omega
    · split
      · simp only [List.map_cons, List.sum_cons]
        omega
      · simp only [List.map_cons, List.sum_cons, ih]
        omega

theorem ascending_addTo (hrank : Function.Injective (StatusKey.rank (S := S))) (h : Ascending counts) (status : S)
    (n : Nat) : Ascending (addTo status n counts) := by
  induction counts with
  | nil => exact List.pairwise_singleton _ _
  | cons e rest ih =>
    obtain ⟨k, m⟩ := e
    obtain ⟨hfirst, hrest⟩ := List.pairwise_cons.mp h
    rw [addTo]
    split
    · exact List.pairwise_cons.mpr ⟨hfirst, hrest⟩
    · next hne =>
      split
      · next hlt =>
        refine List.pairwise_cons.mpr ⟨List.forall_mem_cons.mpr ⟨hlt, fun e he => ?_⟩, h⟩
        exact Nat.lt_trans hlt (hfirst e he)
      · next hge =>
        have hlt : StatusKey.rank k < StatusKey.rank status :=
          Nat.lt_of_le_of_ne (Nat.not_lt.mp hge) fun heq => hne (beq_iff_eq.mpr (hrank heq))
        refine List.pairwise_cons.mpr ⟨fun e he => ?_, ih hrest⟩
        have hkey : e.1 ∈ (addTo status n rest).map Prod.fst := List.mem_map_of_mem he
        rcases (mem_addTo status e.1 n rest).mp hkey with heq | hmem
        · exact heq ▸ hlt
        · obtain ⟨e', he', hkey'⟩ := List.mem_map.mp hmem
          exact hkey' ▸ hfirst e' he'

theorem countOf?_addTo (h : Ascending counts) (status s : S) (n : Nat) :
    countOf? s (addTo status n counts) =
      if status == s then some ((countOf? s counts).getD 0 + n) else countOf? s counts := by
  induction counts with
  | nil => simp [addTo, countOf?]
  | cons e rest ih =>
    obtain ⟨k, m⟩ := e
    obtain ⟨hfirst, hrest⟩ := List.pairwise_cons.mp h
    rw [addTo]
    split
    · next heq =>
      obtain rfl := eq_of_beq heq
      rw [countOf?_cons, countOf?_cons]
      by_cases hs : k == s
      · simp [hs]
      · simp [hs]
    · next hne =>
      split
      · next hlt =>
        rw [countOf?_cons]
        by_cases hs : status == s
        · obtain rfl := eq_of_beq hs
          -- An entry for the status would stand further in front.
          have hnone : countOf? status ((k, m) :: rest) = none := by
            refine countOf?_eq_none.mpr fun hmem => ?_
            obtain ⟨e, he, hkey⟩ := List.mem_map.mp hmem
            rcases List.mem_cons.mp he with rfl | he
            · exact hne (beq_iff_eq.mpr hkey)
            · exact absurd (Nat.lt_trans hlt (hfirst e he)) (by rw [hkey]; exact Nat.lt_irrefl _)
          simp [hnone]
        · simp [hs]
      · rw [countOf?_cons, ih hrest, countOf?_cons]
        by_cases hs : k == s
        · obtain rfl := eq_of_beq hs
          have hother : ¬status == k := fun heq => hne (beq_iff_eq.mpr (eq_of_beq heq).symm)
          simp [hother]
        · simp [hs]

/-! ## All rows -/

/-- The statuses that a tally has entries for. -/
def statuses (t : Tally S) : List S :=
  t.counts.map Prod.fst

/-- A tally of some rows: it has an entry for each status that a row names, which is the sum of the rows that name it,
and the entries and the rows have the same sum. -/
structure Tallies (t : Tally S) (rows : List (StatusCount S)) : Prop where
  ascending : Ascending t.counts
  mem_statuses : ∀ s, s ∈ t.statuses ↔ ∃ row ∈ rows, row.status = s
  get_eq : ∀ s, t.get s = ((rows.filter fun row => row.status == s).map fun row => row.count.toNat).sum
  total_eq : t.total = (t.counts.map Prod.snd).sum
  total_eq_rows : t.total = (rows.map fun row => row.count.toNat).sum

variable {t t' : Tally S} {xs ys rows : List (StatusCount S)}

theorem tallies_empty : (empty : Tally S).Tallies [] where
  ascending := .nil
  mem_statuses s := by simp [statuses, empty]
  get_eq s := rfl
  total_eq := rfl
  total_eq_rows := rfl

theorem Tallies.add (h : t.Tallies rows) (hrank : Function.Injective (StatusKey.rank (S := S))) (row : StatusCount S) :
    (t.add row).Tallies (rows ++ [row]) where
  ascending := ascending_addTo hrank h.ascending row.status row.count.toNat
  mem_statuses s := by
    rw [statuses, Tally.add, mem_addTo, ← statuses, h.mem_statuses]
    simp [or_comm, eq_comm]
  get_eq s := by
    change (countOf? s (addTo row.status row.count.toNat t.counts)).getD 0 = _
    have hbefore : (countOf? s t.counts).getD 0 = _ := h.get_eq s
    rw [countOf?_addTo h.ascending, List.filter_append, List.map_append, List.sum_append, ← hbefore]
    by_cases hs : row.status == s
    · simp [hs]
    · simp [hs]
  total_eq := by
    rw [Tally.add, sum_addTo, ← h.total_eq]
  total_eq_rows := by
    rw [List.map_append, List.sum_append, ← h.total_eq_rows]
    simp [Tally.add]

theorem tallies_ofRows (hrank : Function.Injective (StatusKey.rank (S := S))) (rows : List (StatusCount S)) :
    (ofRows rows).Tallies rows := by
  induction rows using List.reverseRecOn with
  | nil => exact tallies_empty
  | append_singleton rows row ih =>
    rw [ofRows, List.foldl_append]
    exact ih.add hrank row

theorem countOf?_eq (t : Tally S) (s : S) [Decidable (s ∈ t.statuses)] :
    countOf? s t.counts = if s ∈ t.statuses then some (t.get s) else none := by
  split
  · next hmem =>
    obtain ⟨n, hn⟩ := Option.ne_none_iff_exists'.mp fun hnone => countOf?_eq_none.mp hnone hmem
    have hget : t.get s = (countOf? s t.counts).getD 0 := rfl
    rw [hget, hn, Option.getD_some]
  · next hmem => exact countOf?_eq_none.mpr hmem

theorem Tallies.eq_of_perm (h : t.Tallies xs) (h' : t'.Tallies ys) (hperm : xs.Perm ys) : t = t' := by
  classical
  have hstatuses (s : S) : s ∈ t.statuses ↔ s ∈ t'.statuses := by
    simp only [h.mem_statuses, h'.mem_statuses, hperm.mem_iff]
  have hget (s : S) : t.get s = t'.get s := by
    rw [h.get_eq, h'.get_eq]
    exact ((hperm.filter _).map _).sum_nat
  have htotal : t.total = t'.total := by
    rw [h.total_eq_rows, h'.total_eq_rows]
    exact (hperm.map _).sum_nat
  have hcounts : t.counts = t'.counts := by
    refine h.ascending.ext h'.ascending fun s => ?_
    rw [countOf?_eq, countOf?_eq, hget]
    simp only [hstatuses]
  obtain ⟨counts, total⟩ := t
  obtain ⟨counts', total'⟩ := t'
  exact congrArg₂ Tally.mk hcounts htotal

/-- A tally counts what two others count together. -/
structure IsSum (t first second : Tally S) : Prop where
  total_eq : t.total = first.total + second.total
  get_eq : ∀ s, t.get s = first.get s + second.get s
  mem_statuses : ∀ s, s ∈ t.statuses ↔ s ∈ first.statuses ∨ s ∈ second.statuses

theorem Tallies.isSum {first second : Tally S} (h : t.Tallies (xs ++ ys)) (hfirst : first.Tallies xs)
    (hsecond : second.Tallies ys) : t.IsSum first second where
  total_eq := by
    rw [h.total_eq_rows, hfirst.total_eq_rows, hsecond.total_eq_rows, List.map_append, List.sum_append]
  get_eq s := by
    rw [h.get_eq, hfirst.get_eq, hsecond.get_eq, List.filter_append, List.map_append, List.sum_append]
  mem_statuses s := by
    simp only [h.mem_statuses, hfirst.mem_statuses, hsecond.mem_statuses, List.mem_append, or_and_right, exists_or]

end Tally

end RunWatch
