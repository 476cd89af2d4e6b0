import RunWatch.Activity
import RunWatch.Cache.Catalog
import RunWatch.Cache.RunBoard

/-!
# The work of the caches

Each effect of a cache from beginning to end: it is issued, converses with the platform, and settles
what it has found.  An effect that fails settles nothing.
-/

namespace RunWatch

namespace Cache

variable {R : Type} [Record R]

/-- What is left to do for an effect in flight: the change and whether it was applied. -/
def complete (flight : Flight R) : Activity (Cache R) (Except CacheFault (Change R × Bool)) := do
  match ← .ofDialogue flight.dialogue with
  | .error fault => return .error (.api fault)
  | .ok change =>
    let (applied, entries) ← Activity.transact fun c : Cache R =>
      (c.settle flight.ticket change, c.accepts flight.ticket, c.settleReport flight.ticket change)
    .report entries
    return .ok (change, applied)

/-- Carries out an effect. -/
def perform (effect : Effect R) : Activity (Cache R) (Except CacheFault (Change R × Bool)) := do
  complete (← .transact fun c => c.issue effect)

/-- Applies a change without asking the platform. -/
def performDispatch (change : Change R) : Activity (Cache R) Unit := do
  .report (← .transact fun c => (c.dispatch change, c.listing.report change))

end Cache

namespace Catalog

/-- Work on the list of components. -/
def onComponents (a : Activity (Cache Component) α) : Activity Catalog α :=
  a.within Catalog.components fun components c => { c with components }

/-- What is left to do for an update in flight. -/
def completeUpdate (flight : Flight Component) :
    Activity Catalog (Except CacheFault (Change Component)) := do
  match ← .ofDialogue flight.dialogue with
  | .error fault => return .error (.api fault)
  | .ok change =>
    .report (← .transact fun c => (c.settle flight.ticket change, c.updateReport flight.ticket change))
    return .ok change

/-- Updates a component together with its schedules, and gives the component as it is then. -/
def performUpdate (component : Component) (drafts : List ScheduleDraft) :
    Activity Catalog (Except CacheFault (Change Component)) := do
  match ← .transact fun c : Catalog => (c, c.issueUpdate component drafts) with
  | .error fault => return .error fault
  | .ok flight => completeUpdate flight

/-- What is left to do for a search page in flight. -/
def completeSearch (flight : SearchFlight) :
    Activity Catalog (Except CacheFault (Page Component)) := do
  match ← .ofDialogue flight.dialogue with
  | .error fault => return .error (.api fault)
  | .ok page =>
    .alter fun c => c.settleSearch flight.ticket flight.request page
    return .ok page

/-- Fetches a page of a search. -/
def performSearch (request : PageRequest) :
    Activity Catalog (Except CacheFault (Page Component)) := do
  completeSearch (← .transact fun c => c.issueSearch request)

end Catalog

namespace RunBoard

/-- Work on the list of runs. -/
def onRuns (a : Activity (Cache Run) α) : Activity RunBoard α :=
  a.within RunBoard.runs fun runs b => { b with runs }

/-- Fetches a page of runs. -/
def performPage (request : PageRequest) :
    Activity RunBoard (Except CacheFault (Change Run × Bool)) := do
  let flight ← .transact fun b => b.issuePage request
  onRuns (Cache.complete flight)

/-- What is left to do for a refresh, if one has been started. -/
def completeRefresh :
    Option (Flight Run) → Activity RunBoard (Except CacheFault (Option (Change Run × Bool)))
  | none => return .ok none
  | some flight => return (← onRuns (Cache.complete flight)).map some

/-- Fetches the last page again, if there was one. -/
def performRefresh : Activity RunBoard (Except CacheFault (Option (Change Run × Bool))) := do
  completeRefresh (← .transact fun b : RunBoard =>
    match b.issueRefresh with
    | some (b, flight) => (b, some flight)
    | none => (b, none))

/-- What is left to do for a graph in flight; `now` is where the clock stands when its tasks are there. -/
def completeGraph (now : Instant) (flight : GraphFlight) :
    Activity RunBoard (Except CacheFault TaskGraph) := do
  match ← .ofDialogue flight.dialogue with
  | .error fault => return .error (.api fault)
  | .ok page =>
    let graph := TaskGraph.ofTasks now flight.run page.items
    .alter fun b => b.settleGraph flight.ticket graph
    return .ok graph

/-- Fetches the tasks of a run and links them. -/
def performGraph (now : Instant) (run : Uuid) : Activity RunBoard (Except CacheFault TaskGraph) := do
  completeGraph now (← .transact fun b => b.issueGraph run)

end RunBoard

end RunWatch
