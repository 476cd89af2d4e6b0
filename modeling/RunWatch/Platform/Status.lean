import RunWatch.Json.Codec

/-!
# Statuses

The statuses of runs and of tests, and the one scale of severity on which both are ranked: a failure
outweighs everything, missing data comes next, and what is complete weighs least.

Each status type also has an order of its own, `RunStatus.rank` and `TestStatus.rank`, in which
summaries list it; it is not the order of severity.
-/

namespace RunWatch

open Json (Codec)

/-! ## Severity -/

/-- How much an outcome weighs. -/
inductive Severity where
  | completed
  | pending
  | running
  | warning
  | missing
  | failed
  deriving DecidableEq

namespace Severity

/-- The weight of a severity; the heavier outcome decides. -/
def weight : Severity → Nat
  | completed => 1
  | pending => 2
  | running => 3
  | warning => 4
  | missing => 5
  | failed => 6

/-- The name of a severity. -/
def label : Severity → String
  | completed => "Completed"
  | pending => "Pending"
  | running => "Running"
  | warning => "Warning"
  | missing => "Missing"
  | failed => "Failed"

end Severity

/-! ## Runs -/

/-- The status of a run, and of anything summed up like one. -/
inductive RunStatus where
  | pending
  | running
  | completed
  | completedWithWarnings
  | failed
  | missing
  deriving DecidableEq

namespace RunStatus

def severity : RunStatus → Severity
  | failed => .failed
  | missing => .missing
  | completedWithWarnings => .warning
  | running => .running
  | pending => .pending
  | completed => .completed

/-- Whether no further change is expected. -/
def isTerminal (s : RunStatus) : Bool :=
  s ≠ pending && s ≠ running

/-- The place of a status in listings. -/
def rank : RunStatus → Nat
  | pending => 0
  | running => 1
  | completed => 2
  | completedWithWarnings => 3
  | failed => 4
  | missing => 5

/-- The name of a status in messages. -/
def label : RunStatus → String
  | pending => "Pending"
  | running => "Running"
  | completed => "Completed"
  | completedWithWarnings => "Completed with warnings"
  | failed => "Failed"
  | missing => "Missing"

/-- The name of a status in JSON. -/
def wireName : RunStatus → String
  | pending => "PENDING"
  | running => "RUNNING"
  | completed => "COMPLETED"
  | completedWithWarnings => "COMPLETED_WITH_WARNINGS"
  | failed => "FAILED"
  | missing => "MISSING"

def all : List RunStatus := [pending, running, completed, completedWithWarnings, failed, missing]

def codec : Codec RunStatus :=
  Codec.constant (all.map fun s => (s.wireName, s)) wireName

end RunStatus

/-! ## Tests -/

/-- The outcome of a single data test. -/
inductive TestStatus where
  | passed
  | warning
  | failed
  deriving DecidableEq

namespace TestStatus

/-- The run status that a test outcome amounts to. -/
def toRunStatus : TestStatus → RunStatus
  | passed => .completed
  | warning => .completedWithWarnings
  | failed => .failed

def severity (s : TestStatus) : Severity := s.toRunStatus.severity

/-- The place of an outcome in listings. -/
def rank : TestStatus → Nat
  | passed => 0
  | warning => 1
  | failed => 2

/-- The name of an outcome in JSON. -/
def wireName : TestStatus → String
  | passed => "PASSED"
  | warning => "WARNING"
  | failed => "FAILED"

def all : List TestStatus := [passed, warning, failed]

def codec : Codec TestStatus :=
  Codec.constant (all.map fun s => (s.wireName, s)) wireName

end TestStatus

/-! ## Alerts -/

/-- The level of an alert. -/
inductive AlertLevel where
  | warning
  | error
  deriving DecidableEq

namespace AlertLevel

/-- The place of a level in listings. -/
def rank : AlertLevel → Nat
  | warning => 0
  | error => 1

/-- The name of a level in JSON. -/
def wireName : AlertLevel → String
  | warning => "WARNING"
  | error => "ERROR"

def all : List AlertLevel := [warning, error]

def codec : Codec AlertLevel :=
  Codec.constant (all.map fun l => (l.wireName, l)) wireName

end AlertLevel

/-! ## Statuses as keys of a summary -/

/-- A type of statuses that summaries are kept by: how one stands in JSON, its name there, and its place
in listings. -/
class StatusKey (S : Type) extends BEq S, LawfulBEq S where
  codec : Codec S
  wireName : S → String
  rank : S → Nat

instance : StatusKey RunStatus where
  codec := RunStatus.codec
  wireName := RunStatus.wireName
  rank := RunStatus.rank

instance : StatusKey TestStatus where
  codec := TestStatus.codec
  wireName := TestStatus.wireName
  rank := TestStatus.rank

instance : StatusKey AlertLevel where
  codec := AlertLevel.codec
  wireName := AlertLevel.wireName
  rank := AlertLevel.rank

end RunWatch
