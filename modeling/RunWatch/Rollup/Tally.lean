import RunWatch.Platform.Run

/-!
# Tallies

A tally counts items by status and in all.  `Tally.ofRows` adds up rows that may name a status more than
once.
-/

namespace RunWatch

open Json (Value)

/-- Counts by status, and the count of all.  A status that no row named has no entry. -/
structure Tally (S : Type) where
  counts : List (S × Nat)
  total : Nat

namespace Tally

variable {S : Type} [StatusKey S]

/-- Nothing counted. -/
def empty : Tally S := ⟨[], 0⟩

/-- Adds to the count of a status; entries stay in the order of the statuses. -/
def addTo (status : S) (n : Nat) : List (S × Nat) → List (S × Nat)
  | [] => [(status, n)]
  | (s, m) :: rest =>
    if s == status then (s, m + n) :: rest
    else if StatusKey.rank status < StatusKey.rank s then (status, n) :: (s, m) :: rest
    else (s, m) :: addTo status n rest

/-- A tally with one more row. -/
def add (t : Tally S) (row : StatusCount S) : Tally S :=
  ⟨addTo row.status row.count.toNat t.counts, t.total + row.count.toNat⟩

/-- The tally of some rows. -/
def ofRows (rows : List (StatusCount S)) : Tally S :=
  rows.foldl add empty

/-- The count of a status, zero if no row named it. -/
def get (t : Tally S) (status : S) : Nat :=
  ((t.counts.find? fun e => e.1 == status).map Prod.snd).getD 0

/-- A tally as a JSON object: the counts under the names of their statuses, the count of all under
`TOTAL`. -/
def encode (t : Tally S) : Value :=
  Value.ofMembers <|
    t.counts.map (fun e => (StatusKey.wireName e.1, Value.number (Json.Number.ofNat e.2))) ++
      [("TOTAL", Value.number (Json.Number.ofNat t.total))]

end Tally

end RunWatch
