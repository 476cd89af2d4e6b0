import RunWatch.Api.Endpoint
import RunWatch.Cache.Listing
import RunWatch.Cache.Published
import RunWatch.Cache.TicketDesk

/-!
# Caches

A cache keeps a listing of one type of records in step with the platform.  `Cache.issue` starts an effect:
it takes a ticket and gives back the effect in flight, whose dialogue says what is sent and which change
the replies amount to.  `Cache.settle` applies that change if the ticket is still good.  Effects in flight
are values of their own, so any number of them may overlap.
-/

namespace RunWatch

/-- An effect on the records of one type. -/
inductive Effect (R : Type) where
  | getOne (id : Uuid)
  | findAll (request : FindRequest)
  | loadPage (request : PageRequest)
  | createOne (parentId : Option Uuid) (body : Json.Value)
  | updateOne (r : R)
  | deleteOne (id : Uuid)

namespace Effect

/-- Whether an effect replaces the records as a whole. -/
def isListLoad : Effect R → Bool
  | findAll _ | loadPage _ => true
  | _ => false

/-- What an effect sends, and the change that the replies amount to. -/
def call [Record R] (endpoint : Api.Endpoint R) : Effect R → Api.Call (Change R)
  | getOne id => (endpoint.getOne id).map (Except.map .gotOne)
  | findAll request => (endpoint.findAll request).map (Except.map .foundAll)
  | loadPage request => (endpoint.getPage request).map (Except.map (.gotPage · request))
  | createOne parentId body => (endpoint.create parentId body).map (Except.map .created)
  | updateOne r => (endpoint.update r).map (Except.map .updated)
  | deleteOne id => (endpoint.delete id).map (Except.map .deleted)

end Effect

/-- An effect that waits for replies. -/
structure Flight (R : Type) where
  ticket : Ticket
  dialogue : Api.Call (Change R)

/-- A listing that is kept in step with the platform. -/
structure Cache (R : Type) where
  endpoint : Api.Endpoint R
  /-- The listing that a reset goes back to. -/
  initial : Listing R
  state : Published (Listing R)
  desk : TicketDesk

namespace Cache

variable {R : Type} [Record R]

/-- A cache that starts from a listing. -/
def startingFrom (endpoint : Api.Endpoint R) (initial : Listing R) : Cache R :=
  ⟨endpoint, initial, .first initial, .fresh⟩

/-- A cache that starts without records. -/
def new (endpoint : Api.Endpoint R) : Cache R :=
  startingFrom endpoint (.empty R)

/-- The listing as it is now. -/
def listing (c : Cache R) : Listing R := c.state.value

/-- Applies a change whatever has happened since it was asked for. -/
def dispatch (c : Cache R) (change : Change R) : Cache R :=
  { c with state := c.state.publish (c.listing.apply c.initial change) }

/-- Takes a ticket. -/
def takeTicket (c : Cache R) (forList : Bool) : Cache R × Ticket :=
  ({ c with desk := (c.desk.take forList).1 }, (c.desk.take forList).2)

/-- Starts an effect. -/
def issue (c : Cache R) (effect : Effect R) : Cache R × Flight R :=
  let (c, ticket) := c.takeTicket effect.isListLoad
  (c, ⟨ticket, effect.call c.endpoint⟩)

/-- Whether a change with this ticket still counts. -/
def accepts (c : Cache R) (ticket : Ticket) : Bool :=
  c.desk.isCurrent ticket

/-- Applies a change if its ticket is still good. -/
def settle (c : Cache R) (ticket : Ticket) (change : Change R) : Cache R :=
  if c.accepts ticket then c.dispatch change else c

/-- What is reported when a change is settled. -/
def settleReport (c : Cache R) (ticket : Ticket) (change : Change R) : List LogEntry :=
  if c.accepts ticket then c.listing.report change else []

/-- Goes back to the start; the effects in flight no longer count. -/
def reset (c : Cache R) : Cache R :=
  { c with desk := c.desk.invalidate, state := c.state.publish c.initial }

end Cache

end RunWatch
