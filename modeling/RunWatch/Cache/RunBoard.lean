import RunWatch.Cache.Cache
import RunWatch.Rollup.Overview
import RunWatch.TaskGraph

/-!
# The board of runs

A cache of runs that remembers its last page request, so that the page can be fetched again, and the graph
of the tasks of the run that is being looked at.
-/

namespace RunWatch

/-- The tasks of one run and the links between them. -/
structure TaskGraph where
  run : Option Uuid
  tasks : List RunTask
  edges : List Edge
  deriving DecidableEq

namespace TaskGraph

/-- The graph of no run. -/
def empty : TaskGraph := ⟨none, [], []⟩

/-- The graph of a run's tasks as they stand now. -/
def ofTasks (now : Instant) (run : Uuid) (tasks : List RunTask) : TaskGraph :=
  ⟨some run, tasks, linkTasks now tasks⟩

end TaskGraph

/-- A graph that waits for its replies. -/
structure GraphFlight where
  ticket : Ticket
  run : Uuid
  dialogue : Api.Call (Page RunTask)

/-- The runs of a project or pipeline and the graph of one of them. -/
structure RunBoard where
  runs : Cache Run
  tasks : Api.Endpoint RunTask
  graph : Published TaskGraph
  graphDesk : TicketDesk
  /-- The last page request. -/
  lastRequest : Option PageRequest

namespace RunBoard

/-- A board that has loaded nothing. -/
def new (client : Api.Client) : RunBoard :=
  ⟨.new client.runs, client.runTasks, .first .empty, .fresh, none⟩

/-- The overview of the runs at hand. -/
def overview (b : RunBoard) : Overview :=
  .ofRuns b.runs.listing.items

/-! ## Pages -/

/-- Starts an effect on the list of runs. -/
def issue (b : RunBoard) (effect : Effect Run) : RunBoard × Flight Run :=
  ({ b with runs := (b.runs.issue effect).1 }, (b.runs.issue effect).2)

/-- Applies a change to the list of runs if its ticket is still good. -/
def settle (b : RunBoard) (ticket : Ticket) (change : Change Run) : RunBoard :=
  { b with runs := b.runs.settle ticket change }

/-- Starts fetching a page and remembers its request. -/
def issuePage (b : RunBoard) (request : PageRequest) : RunBoard × Flight Run :=
  issue { b with lastRequest := some request } (.loadPage request)

/-- Starts fetching the last page again, if there was one. -/
def issueRefresh (b : RunBoard) : Option (RunBoard × Flight Run) :=
  b.lastRequest.map fun request => b.issue (.loadPage request)

/-! ## The graph -/

/-- Starts fetching the tasks of a run. -/
def issueGraph (b : RunBoard) (run : Uuid) : RunBoard × GraphFlight :=
  let (desk, ticket) := b.graphDesk.list
  ({ b with graphDesk := desk }, ⟨ticket, run, b.tasks.findAll (.under run)⟩)

/-- Shows a graph if its ticket is still good. -/
def settleGraph (b : RunBoard) (ticket : Ticket) (graph : TaskGraph) : RunBoard :=
  if b.graphDesk.isCurrent ticket then { b with graph := b.graph.publish graph } else b

/-- Forgets runs, graph and last request; the effects in flight no longer count. -/
def reset (b : RunBoard) : RunBoard :=
  { b with
    runs := b.runs.reset
    graphDesk := b.graphDesk.invalidate
    graph := b.graph.publish .empty
    lastRequest := none }

end RunBoard

end RunWatch
