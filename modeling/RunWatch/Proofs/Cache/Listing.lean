import Mathlib.Data.List.Induction
import Mathlib.Data.List.Nodup
import RunWatch.Proofs.Cache.Overlap

/-!
# Listings over many changes

What a listing keeps while changes are applied to it one after the other, in whatever order effects bring them.

The records at hand are never more than the total, and a change that concerns one record leaves the number of
those outstanding as it is (`listing_within_total`).  The identifiers at hand are distinct as long as no record is
created that is at hand already, and only so long (`distinct_iff_nothing_created_again`): a record that is
created is put behind the others without a look at them, and a page that was loaded in the meantime may hold it.
-/

namespace RunWatch

namespace Change

variable {R : Type}

/-- The page that a change puts in the place of all records. -/
def page? : Change R → Option (Page R)
  | .foundAll page | .gotPage page _ => some page
  | _ => none

/-- Whether a change concerns one record, or the one singled out. -/
def concernsOne : Change R → Bool
  | .gotOne _ | .created _ | .updated _ | .deleted _ | .select _ => true
  | .foundAll _ | .gotPage _ _ | .reset => false

end Change

namespace Listing

variable {R : Type} [Record R]

/-- The listing after some changes. -/
def after (start initial : Listing R) (changes : List (Change R)) : Listing R :=
  changes.foldl (fun s change => s.apply initial change) start

theorem after_concat (start initial : Listing R) (changes : List (Change R)) (change : Change R) :
    start.after initial (changes ++ [change]) = (start.after initial changes).apply initial change :=
  List.foldl_append

/-! ## Identifiers -/

/-- The identifiers of some records, in their order. -/
def ids (items : List R) : List Uuid :=
  items.map Record.id

theorem has_iff {id : Uuid} {items : List R} : has id items = true ↔ id ∈ ids items := by
  simp [has, ids]

@[simp] theorem ids_append (items items' : List R) : ids (items ++ items') = ids items ++ ids items' :=
  List.map_append

@[simp] theorem ids_replace (r : R) (items : List R) : ids (replace r items) = ids items := by
  unfold ids replace
  rw [List.map_map]
  refine List.map_congr_left fun old _ => ?_
  by_cases h : Record.id old = Record.id r
  · simp [h]
  · simp [h]

theorem ids_remove_sublist (id : Uuid) (items : List R) : (ids (remove id items)).Sublist (ids items) :=
  List.filter_sublist.map Record.id

theorem nodup_ids_concat {items : List R} (h : (ids items).Nodup) (r : R) :
    (ids (items ++ [r])).Nodup ↔ Record.id r ∉ ids items := by
  have hone : ids [r] = [Record.id r] := rfl
  rw [ids_append, hone, List.nodup_append_comm, List.singleton_append, List.nodup_cons]
  exact and_iff_left h

/-- Whether a change creates a record that is at hand already. -/
def CreatesAgain (s : Listing R) : Change R → Prop
  | .created r => Record.id r ∈ ids s.items
  | _ => False

/-- Distinct identifiers stay distinct under a change, unless it creates a record again. -/
theorem nodup_apply_iff {s initial : Listing R} {change : Change R} (hs : (ids s.items).Nodup)
    (hinitial : (ids initial.items).Nodup)
    (hpage : ∀ page, change.page? = some page → (ids page.items).Nodup) :
    (ids (s.apply initial change).items).Nodup ↔ ¬ s.CreatesAgain change := by
  cases change with
  | gotOne r =>
    refine iff_of_true ?_ not_false
    by_cases h : has (Record.id r) s.items = true
    · simpa [apply, h] using hs
    · have hnew : Record.id r ∉ ids s.items := fun hmem => h (has_iff.mpr hmem)
      simpa [apply, h] using (nodup_ids_concat hs r).mpr hnew
  | foundAll page => exact iff_of_true (hpage page rfl) not_false
  | gotPage page request => exact iff_of_true (hpage page rfl) not_false
  | created r => exact nodup_ids_concat hs r
  | updated r =>
    refine iff_of_true ?_ not_false
    simpa [apply] using hs
  | deleted d => exact iff_of_true ((ids_remove_sublist d.id s.items).nodup hs) not_false
  | select r => exact iff_of_true hs not_false
  | reset => exact iff_of_true hinitial not_false

/-! ## Totals -/

/-- How many records of the platform are not at hand. -/
def outstanding (s : Listing R) : Int :=
  s.total.toNat - s.items.length

/-- What a change puts behind the records at hand. -/
def adds (s : Listing R) : Change R → List R
  | .gotOne r => if has (Record.id r) s.items then [] else [r]
  | .created r => [r]
  | _ => []

/-- How many of the records at hand a change takes away. -/
def loses (s : Listing R) : Change R → Nat
  | .deleted d => (s.items.filter fun r => Record.id r = d.id).length
  | _ => 0

/-- Whether the total can go up by what a change adds. -/
def HasRoom (s : Listing R) (change : Change R) : Prop :=
  s.total.toNat + (s.adds change).length < UInt64.size

instance (s : Listing R) (change : Change R) : Decidable (s.HasRoom change) :=
  inferInstanceAs (Decidable (_ < _))

@[simp] theorem length_replace (r : R) (items : List R) : (replace r items).length = items.length :=
  List.length_map _

theorem length_remove (id : Uuid) (items : List R) :
    (remove id items).length + (items.filter fun r => Record.id r = id).length = items.length := by
  rw [List.length_eq_length_filter_add (l := items) fun r => decide (Record.id r = id), Nat.add_comm]
  simp [remove]

variable {change : Change R}

theorem loses_le (s : Listing R) (change : Change R) : s.loses change ≤ s.items.length := by
  cases change with
  | deleted d => exact List.length_filter_le _ _
  | _ => exact Nat.zero_le _

theorem length_apply (hone : change.concernsOne = true) (s initial : Listing R) :
    (s.apply initial change).items.length + s.loses change = s.items.length + (s.adds change).length := by
  cases change with
  | gotOne r =>
    by_cases h : has (Record.id r) s.items = true
    · simp [apply, adds, loses, h]
    · simp [apply, adds, loses, h]
  | created r => simp [apply, adds, loses]
  | updated r => simp [apply, adds, loses]
  | deleted d => exact length_remove d.id s.items
  | select r => rfl
  | foundAll page => cases hone
  | gotPage page request => cases hone
  | reset => cases hone

/-- The total goes up by what a change adds, over the largest number if need be, and down by what it takes away. -/
theorem toNat_total_apply (hone : change.concernsOne = true) (s initial : Listing R) :
    (s.apply initial change).total.toNat = (s.total.toNat + (s.adds change).length) % UInt64.size - s.loses change := by
  have hkept : s.total.toNat % UInt64.size = s.total.toNat := Nat.mod_eq_of_lt s.total.toNat_lt
  cases change with
  | gotOne r =>
    by_cases h : has (Record.id r) s.items = true
    · simp [apply, adds, loses, h]
    · simp [apply, adds, loses, h]
  | created r => simp [apply, adds, loses]
  | deleted d =>
    have hlength := length_remove d.id s.items
    have hlost : s.items.length - (remove d.id s.items).length = s.loses (.deleted d) := by
      simp only [loses]
      omega
    simp only [apply, adds, toNat_less, hlost, List.length_nil, Nat.add_zero, hkept]
  | updated r | select r => exact hkept.symm
  | foundAll page => cases hone
  | gotPage page request => cases hone
  | reset => cases hone

/-- A change that concerns one record leaves as many outstanding as before. -/
theorem outstanding_apply {s : Listing R} (hs : s.items.length ≤ s.total.toNat) (initial : Listing R)
    (hone : change.concernsOne = true) (hroom : s.HasRoom change) :
    (s.apply initial change).outstanding = s.outstanding := by
  have hlength := length_apply hone s initial
  have hloses := loses_le s change
  have htotal := toNat_total_apply hone s initial
  rw [Nat.mod_eq_of_lt hroom] at htotal
  unfold outstanding
  omega

/-- The records at hand are no more than the total after a change, if they are not in what it brings. -/
theorem length_apply_le {s initial : Listing R} (hs : s.items.length ≤ s.total.toNat)
    (hinitial : initial.items.length ≤ initial.total.toNat) (hroom : s.HasRoom change)
    (hpage : ∀ page, change.page? = some page → page.items.length ≤ page.total.toNat) :
    (s.apply initial change).items.length ≤ (s.apply initial change).total.toNat := by
  by_cases hone : change.concernsOne = true
  · have houtstanding := outstanding_apply hs initial hone hroom
    unfold outstanding at houtstanding
    omega
  · cases change with
    | foundAll page => exact hpage page rfl
    | gotPage page request => exact hpage page rfl
    | reset => exact hinitial
    | _ => exact absurd rfl hone

theorem length_after_le {start initial : Listing R} {changes : List (Change R)}
    (hstart : start.items.length ≤ start.total.toNat) (hinitial : initial.items.length ≤ initial.total.toNat)
    (hpages : ∀ change ∈ changes, ∀ page, change.page? = some page → page.items.length ≤ page.total.toNat)
    (hroom : ∀ done change rest, changes = done ++ change :: rest → (start.after initial done).HasRoom change) :
    (start.after initial changes).items.length ≤ (start.after initial changes).total.toNat := by
  induction changes using List.reverseRecOn with
  | nil => exact hstart
  | append_singleton changes change ih =>
    have hchanges := ih (fun c hc => hpages c (List.mem_append_left [change] hc)) fun done c rest heq =>
      hroom done c (rest ++ [change]) (by simp [heq])
    rw [after_concat]
    exact length_apply_le hchanges hinitial (hroom changes change [] rfl)
      (hpages change (List.mem_append_right changes List.mem_cons_self))

end Listing

/-- Changes are applied to a listing with distinct identifiers, each page with distinct identifiers as well.  The
identifiers at hand are distinct at every moment exactly if no record is ever created that is at hand then. -/
theorem distinct_iff_nothing_created_again {R : Type} [Record R] {start initial : Listing R}
    {changes : List (Change R)} (hstart : (Listing.ids start.items).Nodup)
    (hinitial : (Listing.ids initial.items).Nodup)
    (hpages : ∀ change ∈ changes, ∀ page, change.page? = some page → (Listing.ids page.items).Nodup) :
    (∀ done rest, changes = done ++ rest → (Listing.ids (start.after initial done).items).Nodup) ↔
      ∀ done r rest, changes = done ++ .created r :: rest →
        Record.id r ∉ Listing.ids (start.after initial done).items := by
  constructor
  · intro hdistinct done r rest heq
    have hpage : ∀ page, (Change.created r).page? = some page → (Listing.ids page.items).Nodup := nofun
    have hbefore := hdistinct done (.created r :: rest) heq
    have hafter := hdistinct (done ++ [.created r]) rest (by simp [heq])
    rw [Listing.after_concat] at hafter
    exact (Listing.nodup_apply_iff hbefore hinitial hpage).mp hafter
  · intro hnew done
    induction done using List.reverseRecOn with
    | nil => exact fun _ _ => hstart
    | append_singleton done change ih =>
      intro rest heq
      have hsplit : changes = done ++ change :: rest := by simp [heq]
      have hpage := hpages change (by simp [hsplit])
      have hbefore := ih (change :: rest) hsplit
      rw [Listing.after_concat]
      refine (Listing.nodup_apply_iff hbefore hinitial hpage).mpr fun hagain => ?_
      cases change with
      | created r => exact hnew done r rest hsplit hagain
      | _ => exact hagain

/-- A record that is deleted in between can be created again. -/
theorem deleted_record_created_again :
    let a : Project := ⟨⟨⟨List.replicate 32 1, rfl⟩, "a", none, none, none, true⟩⟩
    let start := Listing.empty Project
    let changes : List (Change Project) := [.created a, .deleted ⟨a.profile.id⟩, .created a]
    ∀ done rest, changes = done ++ rest → (Listing.ids (start.after start done).items).Nodup := by
  intro a start changes
  have hstart : (Listing.ids start.items).Nodup := .nil
  have hpages : ∀ change ∈ changes, ∀ page, change.page? = some page → (Listing.ids page.items).Nodup := by
    simp [changes, Change.page?]
  refine (distinct_iff_nothing_created_again hstart hstart hpages).mpr fun done r rest heq => ?_
  -- The creations stand behind none and behind two of the changes.
  rcases done with - | ⟨first, - | ⟨second, - | ⟨third, done⟩⟩⟩
  · exact List.not_mem_nil
  · simp [changes] at heq
  · obtain ⟨rfl, rfl, rfl, -⟩ :
        Change.created a = first ∧ Change.deleted ⟨a.profile.id⟩ = second ∧ a = r ∧ [] = rest := by
      simpa [changes] using heq
    decide +kernel
  · simp [changes] at heq

/-- A record is created while all records are loaded, and the page that comes in first has it: then it is at hand
twice, though no identifier is repeated at the start or in the page. -/
theorem created_record_at_hand_twice :
    let a : Project := ⟨⟨⟨List.replicate 32 1, rfl⟩, "a", none, none, none, true⟩⟩
    let text := "\x7b\"id\":\"11111111-1111-1111-1111-111111111111\",\"name\":\"a\"\x7d"
    let reply (entities : String) : Api.Reply :=
      .response ⟨200, "\x7b\"entities\":[" ++ entities ++ "],\"total\":1\x7d"⟩
    let moves : List (Cache.Move Project) :=
      [.issue (.createOne none .null), .issue (.findAll ⟨[], none, none⟩), .reply 1 (reply ""), .reply 1 (reply text),
        .reply 0 (.response ⟨200, text⟩)]
    let cache := ((Cache.new (Api.Client.projects ⟨"http://api.test"⟩)).play moves).state
    let start := Listing.empty Project
    let page : Page Project := ⟨[a], 1⟩
    (Listing.ids start.items).Nodup ∧ (Listing.ids page.items).Nodup ∧
      cache.listing = start.after start [.foundAll page, .created a] ∧ cache.listing.items = [a, a] ∧
      ¬ (Listing.ids cache.listing.items).Nodup := by
  decide +kernel

/-- The records at hand are never more than the total, if neither a page nor what a reset goes back to has more and
the total stays below 2⁶⁴.  Each change that concerns one record then leaves the same number outstanding, whatever
records are at hand, and no deletion removes more of them than the total counts. -/
theorem listing_within_total {R : Type} [Record R] {start initial : Listing R} {changes : List (Change R)}
    (hstart : start.items.length ≤ start.total.toNat) (hinitial : initial.items.length ≤ initial.total.toNat)
    (hpages : ∀ change ∈ changes, ∀ page, change.page? = some page → page.items.length ≤ page.total.toNat)
    (hroom : ∀ done change rest, changes = done ++ change :: rest → (start.after initial done).HasRoom change) :
    let s := start.after initial changes
    s.items.length ≤ s.total.toNat ∧
      (∀ change, change.concernsOne = true → s.HasRoom change →
        (s.apply initial change).outstanding = s.outstanding) ∧
      ∀ id, s.items.length - (Listing.remove id s.items).length ≤ s.total.toNat := by
  intro s
  have hs : s.items.length ≤ s.total.toNat := Listing.length_after_le hstart hinitial hpages hroom
  refine ⟨hs, fun change hone hfits => Listing.outstanding_apply hs initial hone hfits, fun id => ?_⟩
  omega

/-- A record stands twice at first and is created once more.  When it is deleted, the total goes down by three, and
the one record outstanding stays so when the deleted one is fetched. -/
theorem repeated_record_deleted :
    let a : Project := ⟨⟨⟨List.replicate 32 1, rfl⟩, "a", none, none, none, true⟩⟩
    let start : Listing Project := ⟨[a, a], 3, none, none, none, none⟩
    let s := start.after (.empty Project) [.created a, .deleted ⟨a.profile.id⟩]
    s.items = [] ∧ s.total = 1 ∧ (s.apply (.empty Project) (.gotOne a)).outstanding = s.outstanding := by
  intro a start s
  have hstart : start.items.length ≤ start.total.toNat := by decide
  have hinitial : (Listing.empty Project).items.length ≤ (Listing.empty Project).total.toNat := Nat.le_refl 0
  have hpages : ∀ change ∈ [Change.created a, .deleted ⟨a.profile.id⟩], ∀ page, change.page? = some page →
      page.items.length ≤ page.total.toNat := by
    simp [Change.page?]
  have hroom : ∀ done change rest, [Change.created a, .deleted ⟨a.profile.id⟩] = done ++ change :: rest →
      (start.after (.empty Project) done).HasRoom change := by
    rintro (- | ⟨first, - | ⟨second, done⟩⟩) change rest heq
    · obtain ⟨rfl, -⟩ : Change.created a = change ∧ _ = rest := by simpa using heq
      decide
    · obtain ⟨rfl, rfl, -⟩ : Change.created a = first ∧ Change.deleted ⟨a.profile.id⟩ = change ∧ [] = rest := by
        simpa using heq
      decide
    · simp at heq
  have hs := listing_within_total hstart hinitial hpages hroom
  have hfits : s.HasRoom (.gotOne a) := by decide
  exact ⟨by decide, by decide, hs.2.1 (.gotOne a) rfl hfits⟩

end RunWatch
