import RunWatch.Platform.Component
import RunWatch.Platform.Status

/-!
# Runs

The executions of pipelines, with what the platform reports beside each of them: alerts, and rows that
count its tasks and tests by status.  `RunTask` is one step of a run; a step without an end is still
running.
-/

namespace RunWatch

open Json (Shape Codec)

/-! ## Rows of a summary -/

/-- How many items have a status. -/
structure StatusCount (S : Type) where
  status : S
  count : UInt64
  deriving DecidableEq

namespace StatusCount

def shape (S : Type) [StatusKey S] : Shape (StatusCount S) :=
  ((Shape.required "status" (StatusKey.codec (S := S))).both
    (Shape.required "count" Codec.uint64)).of
    (fun (status, count) => ⟨status, count⟩) (fun r => (r.status, r.count))

def codec (S : Type) [StatusKey S] : Codec (StatusCount S) := Codec.record (shape S)

end StatusCount

/-! ## Alerts -/

/-- An alert raised for a run or an instance.  Alerts may arrive summed up, `count` of them in one. -/
structure Alert where
  id : Uuid
  level : AlertLevel
  type : String
  description : String
  createdOn : Instant
  count : UInt64
  deriving DecidableEq

namespace Alert

def shape : Shape Alert :=
  ((Shape.required "id" Uuid.codec).both <|
    (Shape.required "level" AlertLevel.codec).both <|
    (Shape.required "type" Codec.text).both <|
    (Shape.defaulted "description" Codec.text "").both <|
    (Shape.required "created_on" Instant.codec).both <|
    Shape.defaulted "count" Codec.uint64 1).of
    (fun (id, level, type, description, createdOn, count) =>
      ⟨id, level, type, description, createdOn, count⟩)
    (fun a => (a.id, a.level, a.type, a.description, a.createdOn, a.count))

instance : Record Alert where
  kind := .alert
  codec := Codec.record shape
  id a := a.id
  readonly := assignedKeys

end Alert

/-! ## Runs and their steps -/

/-- One execution of a pipeline. -/
structure Run where
  id : Uuid
  key : String
  name : Option String
  pipeline : ComponentRef
  status : RunStatus
  startTime : Option Instant
  endTime : Option Instant
  tasksSummary : List (StatusCount RunStatus)
  testsSummary : List (StatusCount TestStatus)
  alerts : List Alert
  deriving DecidableEq

namespace Run

def shape : Shape Run :=
  ((Shape.required "id" Uuid.codec).both <|
    (Shape.required "key" Codec.text).both <|
    (Shape.possible "name" Codec.text).both <|
    (Shape.required "pipeline" ComponentRef.codec).both <|
    (Shape.required "status" RunStatus.codec).both <|
    (Shape.possible "start_time" Instant.codec).both <|
    (Shape.possible "end_time" Instant.codec).both <|
    (Shape.defaulted "tasks_summary" (Codec.list (StatusCount.codec RunStatus)) []).both <|
    (Shape.defaulted "tests_summary" (Codec.list (StatusCount.codec TestStatus)) []).both <|
    Shape.defaulted "alerts" (Codec.list (Record.codec (R := Alert))) []).of
    (fun (id, key, name, pipeline, status, startTime, endTime, tasks, tests, alerts) =>
      ⟨id, key, name, pipeline, status, startTime, endTime, tasks, tests, alerts⟩)
    (fun r => (r.id, r.key, r.name, r.pipeline, r.status, r.startTime, r.endTime, r.tasksSummary,
      r.testsSummary, r.alerts))

instance : Record Run where
  kind := .run
  codec := Codec.record shape
  id r := r.id
  readonly := assignedKeys

end Run

/-- The task that a step of a run executes. -/
structure TaskRef where
  id : Uuid
  key : String
  displayName : Option String
  deriving DecidableEq

namespace TaskRef

def shape : Shape TaskRef :=
  ((Shape.required "id" Uuid.codec).both <|
    (Shape.required "key" Codec.text).both <|
    Shape.possible "display_name" Codec.text).of
    (fun (id, key, displayName) => ⟨id, key, displayName⟩) (fun t => (t.id, t.key, t.displayName))

def codec : Codec TaskRef := Codec.record shape

end TaskRef

/-- One step of a run. -/
structure RunTask where
  id : Uuid
  run : Option Uuid
  task : TaskRef
  startTime : Instant
  endTime : Option Instant
  status : RunStatus
  deriving DecidableEq

namespace RunTask

def shape : Shape RunTask :=
  ((Shape.required "id" Uuid.codec).both <|
    (Shape.possible "run" Uuid.codec).both <|
    (Shape.required "task" TaskRef.codec).both <|
    (Shape.required "start_time" Instant.codec).both <|
    (Shape.possible "end_time" Instant.codec).both <|
    Shape.required "status" RunStatus.codec).of
    (fun (id, run, task, startTime, endTime, status) => ⟨id, run, task, startTime, endTime, status⟩)
    (fun t => (t.id, t.run, t.task, t.startTime, t.endTime, t.status))

instance : Record RunTask where
  kind := .task
  codec := Codec.record shape
  id t := t.id
  readonly := assignedKeys

/-- The name that people know a step by. -/
def label (t : RunTask) : String :=
  t.task.displayName.getD t.task.key

end RunTask

end RunWatch
