import RunWatch.Rollup.Alerts
import RunWatch.Rollup.Severity
import RunWatch.Rollup.Tally

/-!
# Overviews

What a set of runs amounts to: one status, the counts of runs, tasks and tests by status, and the alerts
by level.
-/

namespace RunWatch

/-- The summary of a set of runs. -/
structure Overview where
  status : RunStatus
  runs : Tally RunStatus
  tasks : Tally RunStatus
  tests : Tally TestStatus
  alerts : AlertBoard

namespace Overview

/-- The overview of some runs.  Each run counts once; its tasks, tests and alerts count as its own rows
say. -/
def ofRuns (runs : List Run) : Overview where
  status := RunStatus.mostSevere (runs.map Run.status)
  runs := Tally.ofRows (runs.map fun r => ⟨r.status, 1⟩)
  tasks := Tally.ofRows (runs.flatMap Run.tasksSummary)
  tests := Tally.ofRows (runs.flatMap Run.testsSummary)
  alerts := AlertBoard.ofAlerts (runs.flatMap Run.alerts)

/-- An overview as a JSON object. -/
def encode (o : Overview) : Json.Value :=
  .ofMembers
    [("status", RunStatus.codec.write o.status),
      ("runs", o.runs.encode),
      ("tasks", o.tasks.encode),
      ("tests", o.tests.encode),
      ("alerts", o.alerts.encode)]

end Overview

end RunWatch
