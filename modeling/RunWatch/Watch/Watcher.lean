import RunWatch.Activity
import RunWatch.Cache.Work
import RunWatch.Watch.Transition

/-!
# The watcher

The watcher keeps the first page of a project's runs fresh.  Each cycle fetches the page, compares it with
the statuses known so far, asks for the tests of every run that is going on, and reports the overview.

Cycles may overlap.  A page is put on the board in one step and the board is looked at in another, so that a
cycle may find a later page there than its own; each look compares the page that it finds with the statuses
that the looks before have left.  A cycle whose page has been superseded does not look: it reports no
transition and leaves the known statuses alone.  The replies about tests only go to the log.
-/

namespace RunWatch.Watch

/-- The state that the cycles of one watch share. -/
structure Watcher where
  client : Api.Client
  project : Uuid
  pageSize : UInt32
  board : RunBoard
  known : Known

/-- What a cycle has found out. -/
structure Report where
  overview : Overview
  transitions : List Transition

/-- A cycle that found nothing out, and whether it was to fetch the page again or for the first time. -/
structure CycleFault where
  again : Bool
  fault : CacheFault
  deriving DecidableEq

namespace CycleFault

/-- What a failed cycle was about. -/
def context (f : CycleFault) : String :=
  if f.again then "Failed to refresh runs" else "Failed to fetch runs"

/-- A failed cycle in words, with its causes. -/
def message (f : CycleFault) : String :=
  ": ".intercalate (f.context :: f.fault.chain)

end CycleFault

/-- A page of runs that waits for its reply. -/
structure PageFlight where
  /-- Whether the page is fetched again. -/
  again : Bool
  flight : Flight Run

namespace Watcher

/-- A watcher that has seen nothing yet. -/
def new (client : Api.Client) (project : Uuid) (pageSize : UInt32) : Watcher :=
  ⟨client, project, pageSize, .new client, []⟩

/-! ## The page of runs -/

/-- The request for the latest runs of the project. -/
def firstPage (w : Watcher) : PageRequest :=
  { PageRequest.plain 0 w.pageSize with sort := some "desc", parent := some w.project }

/-- Starts fetching the page: the same one as last time, or else the first one.  Since all cycles fetch the
same page, this may count as one step. -/
def begin (w : Watcher) : Watcher × PageFlight :=
  match w.board.issueRefresh with
  | some (board, flight) => ({ w with board }, ⟨true, flight⟩)
  | none =>
    let (board, flight) := w.board.issuePage w.firstPage
    ({ w with board }, ⟨false, flight⟩)

/-- Puts a page on the board, unless it has been superseded, and tells whether it did. -/
def settle (w : Watcher) (ticket : Ticket) (change : Change Run) : Watcher × Bool :=
  ({ w with board := w.board.settle ticket change }, w.board.runs.accepts ticket)

/-- What a look at the board shows: the runs that it holds, and how they have moved since the looks before. -/
structure View where
  runs : List Run
  transitions : List Transition

/-- Looks at the board and takes the statuses in.  The known statuses are locked all the while and only change
here, so that this is one step: the one in which the board is read. -/
def look (w : Watcher) : Watcher × View :=
  let runs := w.board.runs.listing.items
  let moved := Watch.transitions w.known runs
  ({ w with known := moved.1 }, ⟨runs, moved.2⟩)

/-! ## The tests of running runs -/

/-- The request for the tests of a run. -/
def testsRequest (project : Uuid) (r : Run) : FindRequest :=
  (FindRequest.under project).withFilter "run_id" (.string r.id.text)

/-- What is reported about the tests of a run. -/
def testsReport (r : Run) : Except Api.Fault (Page TestOutcome) → List LogEntry
  | .error fault =>
    [.warn .watcher
      ("Failed to fetch tests for run " ++ r.key ++ ": " ++ ": ".intercalate fault.chain)]
  | .ok page =>
    if page.items.isEmpty then []
    else
      [.info .watcher
        ("Run " ++ r.key ++ " is running, tests so far: " ++ (RunStatus.ofTests page.items).label)]

/-- Asks for the tests of a run. -/
def surveyRun (client : Api.Client) (project : Uuid) (r : Run) : Activity Watcher Unit := do
  .report (testsReport r (← .ofDialogue (client.tests.findAll (testsRequest project r))))

/-- Asks for the tests of some runs, one run after the other. -/
def survey (client : Api.Client) (project : Uuid) : List Run → Activity Watcher Unit
  | [] => return ()
  | r :: rs => do
    surveyRun client project r
    survey client project rs

/-- The runs that are going on. -/
def running (runs : List Run) : List Run :=
  runs.filter fun r => r.status = .running

/-! ## Cycles -/

/-- What is reported about the project as a whole. -/
def overviewReport (project : Uuid) (o : Overview) : LogEntry :=
  .info .watcher
    ("Project " ++ project.text ++ ": " ++ o.status.label ++ " (" ++ toString o.runs.total ++ " runs, " ++
      toString o.alerts.errors.count ++ " error alerts, " ++ toString o.alerts.warnings.count ++
      " warning alerts)")

/-- What is left to do after a look. -/
def conclude (client : Api.Client) (project : Uuid) (view : View) : Activity Watcher Report := do
  .report (view.transitions.flatMap Transition.report)
  survey client project (running view.runs)
  let overview := Overview.ofRuns view.runs
  .report [overviewReport project overview]
  return ⟨overview, view.transitions⟩

/-- How a cycle goes on when its page has been put on the board, or has not because it was superseded. -/
def goOn (applied : Bool) : Activity Watcher Report := do
  if applied then
    let (w, view) ← Activity.transact fun w : Watcher => (w.look.1, w, w.look.2)
    conclude w.client w.project view
  else
    let w ← Activity.transact fun w : Watcher => (w, w)
    return ⟨w.board.overview, []⟩

/-- One cycle.  Another one may come between the step that puts the page on the board and the look at it. -/
def cycle : Activity Watcher (Except CycleFault Report) := do
  let page ← .transact begin
  match ← .ofDialogue page.flight.dialogue with
  | .error fault => return .error ⟨page.again, .api fault⟩
  | .ok change =>
    let applied ← Activity.transact fun w : Watcher => w.settle page.flight.ticket change
    .pause 0
    return .ok (← goOn applied)

/-- One cycle whose failure is reported and nothing else. -/
def quietCycle : Activity Watcher Unit := do
  match ← cycle with
  | .ok _ => return ()
  | .error fault => .report [.warn .watcher ("Error during poll cycle: " ++ fault.message)]

/-- Forgets the runs; the pages in flight no longer count. -/
def resetRuns (w : Watcher) : Watcher :=
  { w with board := w.board.reset }

end Watcher

end RunWatch.Watch
