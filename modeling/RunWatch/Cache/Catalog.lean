import RunWatch.Cache.Cache
import RunWatch.Cache.SchedulePlan
import RunWatch.Cache.Search

/-!
# The catalog of components

A cache of components with two more effects: updating a component together with its schedules, and
searching page by page.  The search has a desk of its own, so neither of the two ever gets in the way of
the other.
-/

namespace RunWatch

/-- The components of a project and the search through them. -/
structure Catalog where
  components : Cache Component
  schedules : Api.Endpoint Schedule
  search : Published Search
  searchDesk : TicketDesk

/-- A search page that waits for its reply. -/
structure SearchFlight where
  ticket : Ticket
  request : PageRequest
  dialogue : Api.Call (Page Component)

namespace Catalog

/-- A catalog that has loaded nothing. -/
def new (client : Api.Client) : Catalog :=
  ⟨.new client.components, client.schedules, .first .empty, .fresh⟩

/-! ## Updating a component with its schedules -/

/-- The call of one step of a plan. -/
def stepCall (schedules : Api.Endpoint Schedule) (component : Uuid) : ScheduleStep → Api.Call Unit
  | .create draft =>
    (schedules.create (some component) (ScheduleDraft.codec.write draft)).map
      (Except.map fun _ => ())
  | .replace id draft =>
    (schedules.patch id (ScheduleDraft.codec.write draft)).map (Except.map fun _ => ())
  | .delete id => (schedules.delete id).map (Except.map fun _ => ())

/-- The calls of some steps, one after the other; the first fault ends them. -/
def stepCalls (schedules : Api.Endpoint Schedule) (component : Uuid) :
    List ScheduleStep → Api.Call Unit
  | [] => .answer (.ok ())
  | s :: ss => (stepCall schedules component s).andThen fun _ => stepCalls schedules component ss

/-- The calls of an update: the component, then its schedules, then the component as the platform has it
now. -/
def updateCall (c : Catalog) (component : Component) (steps : List ScheduleStep) :
    Api.Call (Change Component) :=
  (c.components.endpoint.update component).andThen fun _ =>
    (stepCalls c.schedules (Record.id component) steps).andThen fun _ =>
      (c.components.endpoint.getOne (Record.id component)).map (Except.map .updated)

/-- Starts an update.  A plan that is refused sends nothing. -/
def issueUpdate (c : Catalog) (component : Component) (drafts : List ScheduleDraft) :
    Except CacheFault (Flight Component) :=
  (SchedulePlan.plan component drafts).map fun steps =>
    ⟨c.components.desk.single, c.updateCall component steps⟩

/-- What is reported when an update has come to its end. -/
def updateReport (c : Catalog) (ticket : Ticket) (change : Change Component) : List LogEntry :=
  c.components.settleReport ticket change ++ [.info .catalog "component updated"]

/-! ## Effects on the list -/

/-- Starts an effect on the list of components. -/
def issue (c : Catalog) (effect : Effect Component) : Catalog × Flight Component :=
  ({ c with components := (c.components.issue effect).1 }, (c.components.issue effect).2)

/-- Applies a change to the list of components if its ticket is still good. -/
def settle (c : Catalog) (ticket : Ticket) (change : Change Component) : Catalog :=
  { c with components := c.components.settle ticket change }

/-! ## Searching -/

/-- Starts fetching a page of a search. -/
def issueSearch (c : Catalog) (request : PageRequest) : Catalog × SearchFlight :=
  let (desk, ticket) := c.searchDesk.list
  ({ c with searchDesk := desk }, ⟨ticket, request, c.components.endpoint.getPage request⟩)

/-- Merges a page into the search if its ticket is still good. -/
def settleSearch (c : Catalog) (ticket : Ticket) (request : PageRequest) (page : Page Component) :
    Catalog :=
  if c.searchDesk.isCurrent ticket then
    { c with search := c.search.publish (c.search.value.merge page request) }
  else c

/-- Forgets what the search has gathered; the pages in flight no longer count. -/
def clearSearch (c : Catalog) : Catalog :=
  { c with searchDesk := c.searchDesk.invalidate, search := c.search.publish .empty }

end Catalog

end RunWatch
