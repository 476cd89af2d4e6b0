/-!
# Tickets

How late replies are kept from overwriting newer ones.  Every effect takes a ticket when it is issued and
shows it when its result arrives; a result with a stale ticket is dropped.  A ticket goes stale when the
desk is closed for a new epoch, and a list ticket also when a later list ticket is taken.
-/

namespace RunWatch

/-- The place of an effect in the history of its desk. -/
structure Ticket where
  epoch : Nat
  /-- The number of a list ticket. -/
  generation : Option Nat
  deriving DecidableEq

/-- Hands out tickets and tells which are still good. -/
structure TicketDesk where
  epoch : Nat
  generation : Nat
  deriving DecidableEq

namespace TicketDesk

/-- A desk that has handed out nothing. -/
def fresh : TicketDesk := ⟨0, 0⟩

/-- The ticket of an effect on a single record. -/
def single (d : TicketDesk) : Ticket := ⟨d.epoch, none⟩

/-- The ticket of an effect that replaces a list.  The list tickets before it go stale. -/
def list (d : TicketDesk) : TicketDesk × Ticket :=
  ({ d with generation := d.generation + 1 }, ⟨d.epoch, some (d.generation + 1)⟩)

/-- The ticket of either sort. -/
def take (d : TicketDesk) (forList : Bool) : TicketDesk × Ticket :=
  if forList then d.list else (d, d.single)

/-- Starts a new epoch; every ticket handed out so far goes stale. -/
def invalidate (d : TicketDesk) : TicketDesk :=
  { d with epoch := d.epoch + 1 }

/-- Whether a ticket is still good. -/
def isCurrent (d : TicketDesk) (t : Ticket) : Bool :=
  t.epoch = d.epoch && t.generation.all (· = d.generation)

/-! ## Histories -/

/-- What can happen at a desk. -/
inductive Event where
  | single
  | list
  | invalidate
  deriving DecidableEq

/-- The desk after an event, and the ticket it handed out. -/
def step (d : TicketDesk) : Event → TicketDesk × Option Ticket
  | .single => (d, some d.single)
  | .list => (d.list.1, some d.list.2)
  | .invalidate => (d.invalidate, none)

/-- The desk after some events, and all the tickets handed out, the oldest first. -/
def run (events : List Event) (d : TicketDesk) (handed : List Ticket) : TicketDesk × List Ticket :=
  events.foldl (fun (d, handed) e => ((d.step e).1, handed ++ (d.step e).2.toList)) (d, handed)

end TicketDesk

end RunWatch
