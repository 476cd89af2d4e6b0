import RunWatch.Log
import RunWatch.Platform.Page

/-!
# Listings

What a cache shows of one type of records: the records loaded, the total on the platform, the record last
singled out, and the page request that the records answer.  A `Change` is the result of an effect;
`Listing.apply` brings a listing to the state after a change.
-/

namespace RunWatch

/-- The records of one type that are at hand. -/
structure Listing (R : Type) where
  items : List R
  /-- The total that the platform reported, brought up to date since.  It is counted in 64 bits and starts over from
  zero behind the largest number. -/
  total : UInt64
  /-- The record last fetched, created or updated on its own. -/
  selected : Option R
  page : Option UInt32
  count : Option UInt32
  sort : Option String
  deriving DecidableEq

/-- The result of an effect. -/
inductive Change (R : Type) where
  /-- One record was fetched. -/
  | gotOne (r : R)
  /-- Everything that fits was fetched. -/
  | foundAll (page : Page R)
  /-- The page of a request was fetched. -/
  | gotPage (page : Page R) (request : PageRequest)
  | created (r : R)
  | updated (r : R)
  | deleted (d : Deleted)
  /-- A record is singled out, or none. -/
  | select (r : Option R)
  /-- Everything goes back to the start. -/
  | reset
  deriving DecidableEq

/-- Whether a change replaces the records as a whole. -/
def Change.isListLoad : Change R → Bool
  | .foundAll _ | .gotPage .. => true
  | _ => false

namespace Listing

/-- A listing without records. -/
def empty (R : Type) : Listing R := ⟨[], 0, none, none, none, none⟩

variable {R : Type} [Record R]

/-- Whether a record of this identifier is at hand. -/
def has (id : Uuid) (items : List R) : Bool :=
  items.any fun r => Record.id r = id

/-- The records with every one of the same identifier replaced. -/
def replace (r : R) (items : List R) : List R :=
  items.map fun old => if Record.id old = Record.id r then r else old

/-- The records without those of an identifier. -/
def remove (id : Uuid) (items : List R) : List R :=
  items.filter fun r => Record.id r ≠ id

/-- What is left of a total without some of the records; it does not go below zero. -/
def less (total : UInt64) (removed : Nat) : UInt64 :=
  .ofNat (total.toNat - removed)

theorem toNat_less (total : UInt64) (removed : Nat) : (less total removed).toNat = total.toNat - removed :=
  UInt64.toNat_ofNat_of_lt' (Nat.lt_of_le_of_lt (Nat.sub_le _ _) total.toNat_lt)

/-- The listing after a change; `initial` is the listing that a reset goes back to. -/
def apply (s initial : Listing R) : Change R → Listing R
  | .gotOne r =>
    if has (Record.id r) s.items then
      { s with items := replace r s.items, selected := some r }
    else { s with items := s.items ++ [r], total := s.total + 1, selected := some r }
  | .foundAll page => { s with items := page.items, total := page.total }
  | .gotPage page request =>
    { s with
      items := page.items
      total := page.total
      page := some request.page
      count := some request.count
      sort := request.sort }
  | .created r =>
    { s with items := s.items ++ [r], total := s.total + 1, selected := some r }
  | .updated r => { s with items := replace r s.items, selected := some r }
  | .deleted d =>
    let kept := remove d.id s.items
    { s with
      items := kept
      total := less s.total (s.items.length - kept.length)
      selected := s.selected.filter fun r => Record.id r ≠ d.id }
  | .select r => { s with selected := r }
  | .reset => initial

/-- What is reported when a change is applied: an update of a record that is not at hand means that the
listing has drifted from the platform. -/
def report (s : Listing R) : Change R → List LogEntry
  | .updated r =>
    if has (Record.id r) s.items then []
    else [.error .listing "updated entity is not in the store list"]
  | _ => []

end Listing

end RunWatch
