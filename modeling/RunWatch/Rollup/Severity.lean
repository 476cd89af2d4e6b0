import RunWatch.Platform.Event
import RunWatch.Platform.TestOutcome

/-!
# Rolling statuses up

One status for many: the most severe of them.  `mostSevere` rolls up run statuses, `ofTests` test
outcomes, and `ofDataset` decides the status of a dataset from its tests, its events and its schedules.
-/

namespace RunWatch.RunStatus

/-- The heavier of two statuses; the second of two equally heavy ones. -/
def heavier (a b : RunStatus) : RunStatus :=
  if b.severity.weight < a.severity.weight then a else b

/-- The most severe of some statuses, or `initial` if there are none. -/
def mostSevereOr (initial : RunStatus) : List RunStatus → RunStatus
  | [] => initial
  | s :: ss => ss.foldl heavier s

/-- The most severe of some statuses; without any the status is pending. -/
def mostSevere (statuses : List RunStatus) : RunStatus :=
  mostSevereOr .pending statuses

/-- The run status that tests amount to; without any the status is completed. -/
def ofTests (tests : List TestOutcome) : RunStatus :=
  mostSevereOr .completed (tests.map fun t => t.status.toRunStatus)

/-- The status of a dataset.  A test that did not pass decides it.  Otherwise a write completes it; until
there is one, the data is missing if a schedule expects it and pending if none does. -/
def ofDataset (events : List Event) (tests : List TestOutcome) (schedules : List Schedule) :
    RunStatus :=
  match (tests.map TestOutcome.status).filter (· ≠ .passed) with
  | s :: ss => mostSevereOr .pending ((s :: ss).map TestStatus.toRunStatus)
  | [] =>
    if events.any Event.isWrite then .completed
    else if schedules.isEmpty then .pending
    else .missing

end RunWatch.RunStatus
