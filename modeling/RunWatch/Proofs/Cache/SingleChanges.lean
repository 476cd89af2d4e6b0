import RunWatch.Proofs.Cache.Listing

/-!
# Changes of one record

A change that concerns one record revises those at hand one by one and may put one more behind them
(`items_apply`).  What it makes of a record depends on nothing but that record and leaves those of other identifiers
alone, and what it adds depends only on whether its own identifier is at hand.  So two changes of distinct records
do the same in either order, down to the order of what both of them add and to a total that has no room for it
(`changes_of_distinct_records_commute`).
-/

namespace RunWatch

namespace Change

variable {R : Type} [Record R]

/-- The identifier of the record that a change concerns. -/
def subject? : Change R → Option Uuid
  | .gotOne r | .created r | .updated r => some (Record.id r)
  | .deleted d => some d.id
  | _ => none

/-- The record that a change brings along. -/
def record? : Change R → Option R
  | .gotOne r | .created r | .updated r => some r
  | _ => none

/-- Whether a change deletes a record. -/
def isDeletion : Change R → Bool
  | .deleted _ => true
  | _ => false

/-- What a change makes of a record at hand; none if it takes it away. -/
def revise : Change R → R → Option R
  | .gotOne r, old | .updated r, old => some (if Record.id old = Record.id r then r else old)
  | .deleted d, old => if Record.id old = d.id then none else some old
  | _, old => some old

variable {a b : Change R} {i j : Uuid} {r old : R}

theorem concernsOne_of_subject? (h : a.subject? = some i) : a.concernsOne = true := by
  cases a with
  | foundAll page => cases h
  | gotPage page request => cases h
  | select r => cases h
  | reset => cases h
  | _ => rfl

theorem id_of_record? (h : a.subject? = some i) (hr : a.record? = some r) : Record.id r = i := by
  cases a with
  | gotOne r' | created r' | updated r' =>
    obtain rfl := Option.some.inj hr
    exact Option.some.inj h
  | _ => cases hr

theorem record?_eq_none (h : a.subject? = some i) : a.record? = none ↔ a.isDeletion = true := by
  cases a with
  | gotOne r | created r | updated r => simp [record?, isDeletion]
  | deleted d => simp [record?, isDeletion]
  | _ => cases h

theorem exists_record? (h : a.subject? = some i) (hdeletion : a.isDeletion = false) : ∃ r, a.record? = some r := by
  apply Option.ne_none_iff_exists'.mp
  intro hnone
  rw [(record?_eq_none h).mp hnone] at hdeletion
  exact absurd hdeletion (by decide)

theorem revise_of_ne (h : a.subject? = some i) (hne : Record.id old ≠ i) : a.revise old = some old := by
  cases a with
  | gotOne r | updated r =>
    obtain rfl := Option.some.inj h
    simp [revise, hne]
  | created r => rfl
  | deleted d =>
    obtain rfl := Option.some.inj h
    simp [revise, hne]
  | _ => cases h

theorem id_of_revise {new : R} (h : a.revise old = some new) : Record.id new = Record.id old := by
  cases a with
  | gotOne r | updated r =>
    obtain rfl := Option.some.inj h
    split
    · rename_i hid
      exact hid.symm
    · rfl
  | deleted d =>
    simp only [revise] at h
    split at h
    · cases h
    · exact congrArg Record.id (Option.some.inj h).symm
  | _ => exact congrArg Record.id (Option.some.inj h).symm

/-- A record revised by one change is left alone by those that concern another one. -/
theorem revise_revise_of_ne (hb : b.subject? = some j) (hne : Record.id old ≠ j) :
    (a.revise old).bind b.revise = a.revise old := by
  cases hrevise : a.revise old with
  | none => rfl
  | some new => exact revise_of_ne hb (id_of_revise hrevise ▸ hne)

theorem revise_comm (ha : a.subject? = some i) (hb : b.subject? = some j) (hne : i ≠ j) (old : R) :
    (a.revise old).bind b.revise = (b.revise old).bind a.revise := by
  by_cases hold : Record.id old = i
  · have holdj : Record.id old ≠ j := hold ▸ hne
    rw [revise_revise_of_ne hb holdj, revise_of_ne hb holdj, Option.bind_some]
  · rw [revise_revise_of_ne ha hold, revise_of_ne ha hold, Option.bind_some]

/-- Records of other identifiers are neither taken away nor joined by others. -/
theorem others_filterMap_revise (ha : a.subject? = some i) (items : List R) :
    (items.filterMap a.revise).filter (fun r => Record.id r ≠ i) = items.filter fun r => Record.id r ≠ i := by
  induction items with
  | nil => rfl
  | cons old items ih =>
    by_cases hid : Record.id old = i
    · rw [List.filter_cons_of_neg (by simpa using hid), ← ih]
      cases hrevise : a.revise old with
      | none => rw [List.filterMap_cons_none hrevise]
      | some new =>
        have hnew : Record.id new = i := (id_of_revise hrevise).trans hid
        rw [List.filterMap_cons_some hrevise, List.filter_cons_of_neg (by simpa using hnew)]
    · rw [List.filterMap_cons_some (revise_of_ne ha hid), List.filter_cons_of_pos (by simpa using hid),
        List.filter_cons_of_pos (by simpa using hid), ih]

end Change

namespace Listing

open Change

variable {R : Type} [Record R]

variable {s initial : Listing R} {a b : Change R} {i j : Uuid}

theorem id_of_mem_adds (ha : a.subject? = some i) {r : R} (hr : r ∈ s.adds a) : Record.id r = i := by
  cases a with
  | gotOne r' =>
    obtain rfl := Option.some.inj ha
    simp only [adds] at hr
    split at hr
    · cases hr
    · exact congrArg Record.id (List.mem_singleton.mp hr)
  | created r' =>
    obtain rfl := Option.some.inj ha
    exact congrArg Record.id (List.mem_singleton.mp hr)
  | _ => cases hr

/-! ## The parts of a listing after a change -/

theorem replace_eq_filterMap (r : R) (items : List R) :
    replace r items = items.filterMap (Change.updated r).revise :=
  (congrFun List.filterMap_eq_map items).symm

theorem remove_eq_filterMap (d : Deleted) (items : List R) :
    remove d.id items = items.filterMap (Change.deleted d).revise := by
  rw [remove, ← List.filterMap_eq_filter]
  refine List.filterMap_congr fun old _ => ?_
  by_cases h : Record.id old = d.id
  · simp [revise, h, Option.guard]
  · simp [revise, h, Option.guard]

/-- Records that a change does not concern stay as they are. -/
theorem filterMap_revise_of_ne {items : List R} (ha : a.subject? = some i) (h : ∀ old ∈ items, Record.id old ≠ i) :
    items.filterMap a.revise = items := by
  rw [List.filterMap_congr fun old hold => revise_of_ne ha (h old hold)]
  exact List.filterMap_some

theorem items_apply (ha : a.subject? = some i) (s initial : Listing R) :
    (s.apply initial a).items = s.items.filterMap a.revise ++ s.adds a := by
  cases a with
  | gotOne r =>
    by_cases h : has (Record.id r) s.items = true
    · simp only [apply, adds, if_pos h, List.append_nil]
      exact replace_eq_filterMap r s.items
    · have hne : ∀ old ∈ s.items, Record.id old ≠ Record.id r := fun old hold hid =>
        h (has_iff.mpr (hid ▸ List.mem_map_of_mem hold))
      simp only [apply, adds, if_neg h]
      rw [filterMap_revise_of_ne rfl hne]
  | created r =>
    have hkept : s.items.filterMap (created r).revise = s.items := List.filterMap_some
    rw [hkept]
    rfl
  | updated r =>
    rw [← replace_eq_filterMap]
    exact (List.append_nil _).symm
  | deleted d =>
    rw [← remove_eq_filterMap]
    exact (List.append_nil _).symm
  | _ => cases ha

theorem selected_apply (ha : a.subject? = some i) (s initial : Listing R) :
    (s.apply initial a).selected = a.record?.or (s.selected.bind a.revise) := by
  cases a with
  | gotOne r =>
    by_cases h : has (Record.id r) s.items = true
    · simp [apply, h, record?]
    · simp [apply, h, record?]
  | created r | updated r => rfl
  | deleted d =>
    cases hselected : s.selected with
    | none => simp [apply, record?, hselected]
    | some r =>
      by_cases h : Record.id r = d.id
      · simp [apply, record?, revise, hselected, h]
      · simp [apply, record?, revise, hselected, h]
  | _ => cases ha

/-- The page, count and order of the request that the records answer. -/
def request (s : Listing R) : Option UInt32 × Option UInt32 × Option String :=
  (s.page, s.count, s.sort)

theorem request_apply (ha : a.subject? = some i) (s initial : Listing R) :
    (s.apply initial a).request = s.request := by
  cases a with
  | gotOne r =>
    by_cases h : has (Record.id r) s.items = true
    · simp [apply, request, h]
    · simp [apply, request, h]
  | created r | updated r | deleted d => rfl
  | _ => cases ha

/-- Records of other identifiers stay, in their order. -/
theorem others_apply (ha : a.subject? = some i) (s initial : Listing R) :
    (s.apply initial a).items.filter (fun r => Record.id r ≠ i) = s.items.filter fun r => Record.id r ≠ i := by
  have hadded : (s.adds a).filter (fun r => Record.id r ≠ i) = [] :=
    List.filter_eq_nil_iff.mpr fun r hr => by simpa using id_of_mem_adds ha hr
  rw [items_apply ha, List.filter_append, hadded, List.append_nil, others_filterMap_revise ha]

/-! ## Two changes -/

theorem ofId_apply (ha : a.subject? = some i) (hne : i ≠ j) (s initial : Listing R) :
    (s.apply initial a).items.filter (fun r => Record.id r = j) = s.items.filter fun r => Record.id r = j := by
  have hother (items : List R) : items.filter (fun r => Record.id r = j) =
      (items.filter fun r => Record.id r ≠ i).filter fun r => Record.id r = j := by
    rw [List.filter_filter]
    refine List.filter_congr fun r _ => ?_
    by_cases h : Record.id r = j
    · simp [h, hne.symm]
    · simp [h]
  rw [hother, others_apply ha, ← hother]

theorem mem_ids_iff (id : Uuid) (items : List R) : id ∈ ids items ↔ items.filter (fun r => Record.id r = id) ≠ [] := by
  simp [ids]

/-- A change of one record does not touch what a change of another one adds. -/
theorem adds_apply (ha : a.subject? = some i) (hb : b.subject? = some j) (hne : i ≠ j) (s initial : Listing R) :
    (s.apply initial a).adds b = s.adds b := by
  cases b with
  | gotOne r =>
    obtain rfl := Option.some.inj hb
    have hhas : has (Record.id r) (s.apply initial a).items = has (Record.id r) s.items := by
      rw [Bool.eq_iff_iff, has_iff, has_iff, mem_ids_iff, mem_ids_iff, ofId_apply ha hne]
    rw [adds, adds, hhas]
  | created r => rfl
  | updated r => rfl
  | deleted d => rfl
  | _ => cases hb

/-- Nor does it touch what the other one takes away. -/
theorem loses_apply (ha : a.subject? = some i) (hb : b.subject? = some j) (hne : i ≠ j) (s initial : Listing R) :
    (s.apply initial a).loses b = s.loses b := by
  cases b with
  | deleted d =>
    obtain rfl := Option.some.inj hb
    rw [loses, loses, ofId_apply ha hne]
  | _ => rfl

theorem items_apply_apply (ha : a.subject? = some i) (hb : b.subject? = some j) (hne : i ≠ j)
    (s initial : Listing R) :
    ((s.apply initial a).apply initial b).items =
      s.items.filterMap (fun old => (a.revise old).bind b.revise) ++ (s.adds a ++ s.adds b) := by
  have hadded : (s.adds a).filterMap b.revise = s.adds a :=
    filterMap_revise_of_ne hb fun r hr => id_of_mem_adds ha hr ▸ hne
  rw [items_apply hb, items_apply ha, adds_apply ha hb hne, List.filterMap_append, hadded, List.filterMap_filterMap,
    List.append_assoc]

theorem perm_apply_apply (ha : a.subject? = some i) (hb : b.subject? = some j) (hne : i ≠ j)
    (s initial : Listing R) :
    ((s.apply initial a).apply initial b).items.Perm ((s.apply initial b).apply initial a).items := by
  rw [items_apply_apply ha hb hne, items_apply_apply hb ha hne.symm,
    List.filterMap_congr fun old _ => revise_comm ha hb hne old]
  exact List.perm_append_comm.append_left _

/-- Whether a change would carry the total over the largest number, while another one makes room for it. -/
def Overruns (s : Listing R) (a b : Change R) : Prop :=
  s.total.toNat + (s.adds a).length = UInt64.size ∧ s.loses b ≠ 0

theorem toNat_total_apply_apply (ha : a.subject? = some i) (hb : b.subject? = some j) (hne : i ≠ j)
    (s initial : Listing R) :
    ((s.apply initial a).apply initial b).total.toNat =
      ((s.total.toNat + (s.adds a).length) % UInt64.size - s.loses a + (s.adds b).length) % UInt64.size - s.loses b := by
  rw [toNat_total_apply (concernsOne_of_subject? hb), toNat_total_apply (concernsOne_of_subject? ha),
    adds_apply ha hb hne, loses_apply ha hb hne]

/-- What a change adds is one record at most, and then it takes none away. -/
theorem adds_or_loses (s : Listing R) (a : Change R) :
    s.adds a = [] ∨ (s.adds a).length = 1 ∧ s.loses a = 0 := by
  cases a with
  | gotOne r =>
    by_cases h : has (Record.id r) s.items = true
    · exact .inl (by simp [adds, h])
    · exact .inr (by simp [adds, loses, h])
  | created r => exact .inr ⟨rfl, rfl⟩
  | _ => exact .inl rfl

/-- The total does not depend on the order of two changes, unless one of them overruns it and the other one
would prevent that by going first. -/
theorem total_comm_iff (ha : a.subject? = some i) (hb : b.subject? = some j) (hne : i ≠ j)
    (hs : s.items.length ≤ s.total.toNat) (initial : Listing R) :
    ((s.apply initial a).apply initial b).total = ((s.apply initial b).apply initial a).total ↔
      ¬ (s.Overruns a b ∨ s.Overruns b a) := by
  have hlimit := s.total.toNat_lt
  have hlosesa := Nat.le_trans (loses_le s a) hs
  have hlosesb := Nat.le_trans (loses_le s b) hs
  rw [← UInt64.toNat_inj, toNat_total_apply_apply ha hb hne, toNat_total_apply_apply hb ha hne.symm]
  unfold Overruns UInt64.size
  rcases adds_or_loses s a with hadds | ⟨hadds, hloses⟩ <;> rcases adds_or_loses s b with hadds' | ⟨hadds', hloses'⟩
  · simp only [hadds, hadds', List.length_nil]
    omega
  · simp only [hadds, hadds', hloses', List.length_nil]
    omega
  · simp only [hadds, hadds', hloses, List.length_nil]
    omega
  · simp [hadds, hadds', hloses, hloses']

theorem selected_apply_apply (ha : a.subject? = some i) (hb : b.subject? = some j) (s initial : Listing R) :
    ((s.apply initial a).apply initial b).selected =
      b.record?.or ((a.record?.or (s.selected.bind a.revise)).bind b.revise) := by
  rw [selected_apply hb, selected_apply ha]

/-- Before another change or after it, a deletion leaves the same record singled out. -/
theorem selected_comm_of_deletion (ha : a.subject? = some i) (hb : b.subject? = some j) (hne : i ≠ j)
    (hdeletion : a.isDeletion = true) (s initial : Listing R) :
    ((s.apply initial a).apply initial b).selected = ((s.apply initial b).apply initial a).selected := by
  have hrecord : a.record? = none := (record?_eq_none ha).mpr hdeletion
  rw [selected_apply_apply ha hb, selected_apply_apply hb ha, hrecord, Option.none_or, Option.none_or]
  cases hr : b.record? with
  | none =>
    rw [Option.none_or, Option.none_or, Option.bind_assoc, Option.bind_assoc]
    exact congrArg _ (funext fun old => revise_comm ha hb hne old)
  | some r =>
    have hid : Record.id r ≠ i := (id_of_record? hb hr).trans_ne hne.symm
    rw [Option.some_or, Option.some_or, Option.bind_some, revise_of_ne ha hid]

theorem selected_of_not_deletion (ha : a.subject? = some i) (hb : b.subject? = some j)
    (hkeeps : b.isDeletion = false) (s initial : Listing R) :
    ((s.apply initial a).apply initial b).selected = b.record? := by
  obtain ⟨r, hr⟩ := exists_record? hb hkeeps
  rw [selected_apply_apply ha hb, hr, Option.some_or]

end Listing

/-- Two changes that concern distinct records, one after the other and the other way round: the request that the
records answer is the same, and so are the records, except that those added by both stand in the order of the changes.
A deletion makes no difference to the record singled out; without one it is the record of the last change.  The total
is the same as well, unless it is the largest number and one of the changes adds a record while the other one takes
some away: then the order of the two decides whether it starts over. -/
theorem changes_of_distinct_records_commute {R : Type} [Record R] {s initial : Listing R} {a b : Change R} {i j : Uuid}
    (hs : s.items.length ≤ s.total.toNat) (ha : a.subject? = some i) (hb : b.subject? = some j) (hne : i ≠ j) :
    let ab := (s.apply initial a).apply initial b
    let ba := (s.apply initial b).apply initial a
    (ab.total = ba.total ↔ ¬ (s.Overruns a b ∨ s.Overruns b a)) ∧
      (ab.page = ba.page ∧ ab.count = ba.count ∧ ab.sort = ba.sort) ∧
      ab.items.Perm ba.items ∧ (s.adds a = [] ∨ s.adds b = [] → ab.items = ba.items) ∧
      (a.isDeletion = true ∨ b.isDeletion = true → ab.selected = ba.selected) ∧
      (a.isDeletion = false → b.isDeletion = false → ab.selected = b.record? ∧ ba.selected = a.record?) := by
  intro ab ba
  have hperm : ab.items.Perm ba.items := Listing.perm_apply_apply ha hb hne s initial
  have hrequest : ab.request = ba.request := by
    rw [Listing.request_apply hb, Listing.request_apply ha, Listing.request_apply ha, Listing.request_apply hb]
  refine ⟨Listing.total_comm_iff ha hb hne hs initial, ?_, hperm, ?_, ?_, ?_⟩
  · obtain ⟨hpage, hrest⟩ := Prod.mk.inj hrequest
    exact ⟨hpage, Prod.mk.inj hrest⟩
  · intro hadds
    have hrevised : s.items.filterMap (fun old => (a.revise old).bind b.revise) =
        s.items.filterMap fun old => (b.revise old).bind a.revise :=
      List.filterMap_congr fun old _ => Change.revise_comm ha hb hne old
    have hadded : s.adds a ++ s.adds b = s.adds b ++ s.adds a := by
      obtain h | h := hadds
      · simp [h]
      · simp [h]
    rw [Listing.items_apply_apply ha hb hne, Listing.items_apply_apply hb ha hne.symm, hrevised, hadded]
  · rintro (h | h)
    · exact Listing.selected_comm_of_deletion ha hb hne h s initial
    · exact (Listing.selected_comm_of_deletion hb ha hne.symm h s initial).symm
  · intro hkeeps hkeeps'
    exact ⟨Listing.selected_of_not_deletion ha hb hkeeps' s initial,
      Listing.selected_of_not_deletion hb ha hkeeps s initial⟩

/-- A record that is at hand twice is deleted while another one is created. -/
theorem deletion_commutes_with_creation :
    let project (d : Fin 16) : Project := ⟨⟨⟨List.replicate 32 d, rfl⟩, "a", none, none, none, true⟩⟩
    let a := project 1
    let b := project 2
    let c := project 3
    let s : Listing Project := ⟨[a, b, a], 5, some a, some 0, some 20, none⟩
    let ab := (s.apply s (.deleted ⟨a.profile.id⟩)).apply s (.created c)
    let ba := (s.apply s (.created c)).apply s (.deleted ⟨a.profile.id⟩)
    s.items.length ≤ s.total.toNat ∧ a.profile.id ≠ c.profile.id ∧ ab.items = [b, c] ∧ ab.total = 4 ∧
      ba.items = ab.items ∧ ba.total = ab.total ∧ ba.selected = ab.selected := by
  intro project a b c s ab ba
  have hs : s.items.length ≤ s.total.toNat := by decide
  have hne : a.profile.id ≠ c.profile.id := by decide
  have hcommute := @changes_of_distinct_records_commute Project _ s s (.deleted ⟨a.profile.id⟩) (.created c) _ _
    hs rfl rfl hne
  obtain ⟨htotal, -, -, hitems, hselected, -⟩ := hcommute
  have hroom : ¬ (s.Overruns (.deleted ⟨a.profile.id⟩) (.created c) ∨
      s.Overruns (.created c) (.deleted ⟨a.profile.id⟩)) := by
    rintro (⟨htop, -⟩ | ⟨htop, -⟩)
    · exact absurd htop (by decide)
    · exact absurd htop (by decide)
  exact ⟨hs, hne, by decide, by decide, (hitems (.inl rfl)).symm, (htotal.mpr hroom).symm, (hselected (.inl rfl)).symm⟩

/-- The total is the largest number.  A record is deleted and another one created: in this order the total is the
largest number again; the other way round it starts over from zero. -/
theorem order_decides_at_largest_total :
    let project (d : Fin 16) : Project := ⟨⟨⟨List.replicate 32 d, rfl⟩, "a", none, none, none, true⟩⟩
    let a := project 1
    let c := project 2
    let s : Listing Project := ⟨[a], 18446744073709551615, none, none, none, none⟩
    let ab := (s.apply s (.deleted ⟨a.profile.id⟩)).apply s (.created c)
    let ba := (s.apply s (.created c)).apply s (.deleted ⟨a.profile.id⟩)
    s.items.length ≤ s.total.toNat ∧ a.profile.id ≠ c.profile.id ∧ ab.total = 18446744073709551615 ∧ ba.total = 0 ∧
      ab.total ≠ ba.total := by
  decide

end RunWatch
