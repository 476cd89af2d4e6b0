import RunWatch.Platform.Run
import RunWatch.Platform.TestOutcome

/-!
# Alerts by level, items by component

Two ways of sorting things into groups without losing any: alerts into errors and warnings, each group
with the sum of its alerts' own counts, and runs or tests by the component they belong to.
-/

namespace RunWatch

open Json (Value)

/-! ## Alerts by level -/

/-- Alerts of one level in the order they came, and how many alerts they stand for. -/
structure AlertGroup where
  count : Nat
  alerts : List Alert
  deriving DecidableEq

namespace AlertGroup

/-- No alerts. -/
def empty : AlertGroup := ⟨0, []⟩

/-- A group with one more alert. -/
def push (g : AlertGroup) (a : Alert) : AlertGroup :=
  ⟨g.count + a.count.toNat, g.alerts ++ [a]⟩

/-- A group as a JSON object. -/
def encode (g : AlertGroup) : Value :=
  .ofMembers [("count", .number (Json.Number.ofNat g.count)), ("alerts", .array (g.alerts.map Record.encode))]

end AlertGroup

/-- Alerts sorted by level. -/
structure AlertBoard where
  errors : AlertGroup
  warnings : AlertGroup
  deriving DecidableEq

namespace AlertBoard

/-- A board without alerts. -/
def empty : AlertBoard := ⟨.empty, .empty⟩

/-- A board with one more alert. -/
def push (b : AlertBoard) (a : Alert) : AlertBoard :=
  match a.level with
  | .error => { b with errors := b.errors.push a }
  | .warning => { b with warnings := b.warnings.push a }

/-- The board of some alerts. -/
def ofAlerts (alerts : List Alert) : AlertBoard :=
  alerts.foldl push empty

/-- How many alerts the whole board stands for. -/
def total (b : AlertBoard) : Nat :=
  b.errors.count + b.warnings.count

/-- A board as a JSON object. -/
def encode (b : AlertBoard) : Value :=
  .ofMembers [("errors", b.errors.encode), ("warnings", b.warnings.encode)]

end AlertBoard

/-! ## Items by component -/

/-- Items sorted by a key, in the order in which the keys first came up. -/
abbrev Groups (R : Type) := List (Uuid × List R)

namespace Groups

variable {R : Type}

/-- Groups with one more item behind those of its key. -/
def push (key : Uuid) (item : R) : Groups R → Groups R
  | [] => [(key, [item])]
  | (k, items) :: rest =>
    if k = key then (k, items ++ [item]) :: rest else (k, items) :: push key item rest

/-- Items sorted by a key. -/
def ofList (key : R → Uuid) (items : List R) : Groups R :=
  items.foldl (fun groups item => push (key item) item groups) []

/-- The items of a key, if it came up. -/
def find? (key : Uuid) (groups : Groups R) : Option (List R) :=
  (List.find? (fun g => g.1 = key) groups).map Prod.snd

end Groups

/-- Runs by the pipeline they execute. -/
def runsByComponent (runs : List Run) : Groups Run :=
  Groups.ofList (fun r => r.pipeline.id) runs

/-- Test outcomes by the component they tested. -/
def testsByComponent (tests : List TestOutcome) : Groups TestOutcome :=
  Groups.ofList (fun t => t.component.id) tests

end RunWatch
