import RunWatch.Calendar.Date

/-!
# Instants

Points in time as the platform stamps them: a day and a time of day in UTC, to the nanosecond.  A leap
second is kept as the second before it with a thousand million nanoseconds more.  Instants are ordered by
day, then second, then nanosecond.
-/

namespace RunWatch

/-- A point in time, in UTC. -/
structure Instant where
  date : Date
  second : Nat
  nanosecond : Nat
  valid : second < 86400 ∧
    (nanosecond < 1000000000 ∨ nanosecond < 2000000000 ∧ second % 60 = 59)
  deriving DecidableEq

namespace Instant

/-- The instant of a day, a second of it and a nanosecond, if there is one. -/
def of? (date : Date) (second nanosecond : Nat) : Option Instant :=
  if h : second < 86400 ∧
      (nanosecond < 1000000000 ∨ nanosecond < 2000000000 ∧ second % 60 = 59) then
    some ⟨date, second, nanosecond, h⟩
  else none

/-- The instant whose clock, `offset` seconds ahead of UTC, shows a day, second and nanosecond. -/
def ofLocal? (date : Date) (second nanosecond : Nat) (offset : Int) : Option Instant :=
  let shifted := (second : Int) - offset
  if shifted < 0 then do of? (← date.previous?) (shifted + 86400).toNat nanosecond
  else if shifted < 86400 then of? date shifted.toNat nanosecond
  else do of? (← date.next?) (shifted - 86400).toNat nanosecond

/-! ## Order -/

/-- The numbers that order instants, the weightiest first. -/
def orderKey (t : Instant) : List Int :=
  [t.date.year, t.date.month, t.date.day, t.second, t.nanosecond]

instance : LT Instant where
  lt a b := a.orderKey < b.orderKey

instance : LE Instant where
  le a b := ¬b < a

instance (a b : Instant) : Decidable (a < b) :=
  inferInstanceAs (Decidable (a.orderKey < b.orderKey))

instance (a b : Instant) : Decidable (a ≤ b) :=
  inferInstanceAs (Decidable ¬b < a)

/-- The earlier of two instants. -/
def earlier (a b : Instant) : Instant :=
  if b < a then b else a

end Instant

end RunWatch
