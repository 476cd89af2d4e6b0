import RunWatch.Platform.Component
import RunWatch.Platform.Measurement
import RunWatch.Platform.Status

/-!
# Events

What tools report to the platform.  An event says when and for which component it was reported; the rest
depends on its type, which stands under the key `event_type` beside the members of the event itself.
-/

namespace RunWatch

open Json (Shape Codec Manner Tree Value)

/-! ## Payloads -/

/-- What a dataset event reports. -/
inductive DatasetOperation where
  | read
  | write
  deriving DecidableEq

namespace DatasetOperation

def wireName : DatasetOperation → String
  | read => "READ"
  | write => "WRITE"

def codec : Codec DatasetOperation :=
  Codec.constant ([read, write].map fun o => (o.wireName, o)) wireName

end DatasetOperation

/-- How grave a reported message is. -/
inductive MessageLevel where
  | info
  | warning
  | error
  deriving DecidableEq

namespace MessageLevel

def wireName : MessageLevel → String
  | info => "INFO"
  | warning => "WARNING"
  | error => "ERROR"

def codec : Codec MessageLevel :=
  Codec.constant ([info, warning, error].map fun l => (l.wireName, l)) wireName

end MessageLevel

/-- One test result inside an event. -/
structure ReportedTest where
  name : String
  status : TestStatus
  description : Option String
  deriving DecidableEq

namespace ReportedTest

def shape : Shape ReportedTest :=
  ((Shape.required "name" Codec.text).both <|
    (Shape.required "status" TestStatus.codec).both <|
    Shape.possible "description" Codec.text).of
    (fun (name, status, description) => ⟨name, status, description⟩)
    (fun t => (t.name, t.status, t.description))

def codec : Codec ReportedTest := Codec.record shape

end ReportedTest

/-- What an event reports. -/
inductive Payload where
  | runStatus (status : RunStatus) (runKey : Option String)
  | datasetOperation (operation : DatasetOperation) (path : Option String)
  | testOutcomes (outcomes : List ReportedTest)
  | messageLog (level : MessageLevel) (message : String)
  | metricLog (key : String) (value : Measurement)
  deriving DecidableEq

namespace Payload

/-- The types of events. -/
inductive Variety where
  | runStatus
  | datasetOperation
  | testOutcomes
  | messageLog
  | metricLog
  deriving DecidableEq

namespace Variety

def wireName : Variety → String
  | runStatus => "RunStatusEvent"
  | datasetOperation => "DatasetOperationEvent"
  | testOutcomes => "TestOutcomesEvent"
  | messageLog => "MessageLogEvent"
  | metricLog => "MetricLogEvent"

def all : List Variety := [runStatus, datasetOperation, testOutcomes, messageLog, metricLog]

/-- The key under which the type stands. -/
def key : String := "event_type"

/-- A type stands in JSON by its name; its number in the list of types does as well. -/
def codec : Codec Variety where
  write v := .string v.wireName
  read
    | _, .string s => Codec.ofName? (all.map fun v => (v.wireName, v)) s
    | _, .number n => n.toUInt64?.bind fun i => all[i.toNat]?
    | _, _ => none

/-- The parts of a payload of one type. -/
def Parts : Variety → Type
  | runStatus => RunStatus × Option String
  | datasetOperation => DatasetOperation × Option String
  | testOutcomes => List ReportedTest
  | messageLog => MessageLevel × String
  | metricLog => String × Measurement

/-- The shape of a payload of one type, without the type itself. -/
def shape : (v : Variety) → Shape v.Parts
  | runStatus =>
    (Shape.required "status" RunStatus.codec).both (Shape.possible "run_key" Codec.text)
  | datasetOperation =>
    (Shape.required "operation" DatasetOperation.codec).both (Shape.possible "path" Codec.text)
  | testOutcomes => Shape.defaulted "test_outcomes" (Codec.list ReportedTest.codec) []
  | messageLog =>
    (Shape.required "log_level" MessageLevel.codec).both (Shape.required "message" Codec.text)
  | metricLog =>
    (Shape.required "metric_key" Codec.text).both (Shape.required "metric_value" Measurement.codec)

end Variety

/-- The payload of a type with these parts. -/
def build : (v : Variety) → v.Parts → Payload
  | .runStatus, (status, runKey) => .runStatus status runKey
  | .datasetOperation, (operation, path) => .datasetOperation operation path
  | .testOutcomes, outcomes => .testOutcomes outcomes
  | .messageLog, (level, message) => .messageLog level message
  | .metricLog, (key, value) => .metricLog key value

/-- The type of a payload. -/
def variety : Payload → Variety
  | runStatus .. => .runStatus
  | datasetOperation .. => .datasetOperation
  | testOutcomes .. => .testOutcomes
  | messageLog .. => .messageLog
  | metricLog .. => .metricLog

/-- The parts of a payload. -/
def parts : (p : Payload) → p.variety.Parts
  | runStatus status runKey => (status, runKey)
  | datasetOperation operation path => (operation, path)
  | testOutcomes outcomes => outcomes
  | messageLog level message => (level, message)
  | metricLog key value => (key, value)

/-- A payload: its type, then the members of that type.  A payload is never read from an array. -/
def shape : Shape Payload where
  members p := (Variety.key, Variety.codec.write p.variety) :: p.variety.shape.members p.parts
  read m ms := do
    let v ← (Shape.required Variety.key Variety.codec).read m ms
    (v.shape.read m ms).map (build v)
  readItems _ _ := none

end Payload

/-! ## Events -/

/-- An event. -/
structure Event where
  id : Uuid
  timestamp : Instant
  component : Option ComponentRef
  payload : Payload
  deriving DecidableEq

namespace Event

/-- The keys that are an event's own, beside those of its payload. -/
def ownKeys : List String := ["id", "timestamp", "component"]

def shape : Shape Event :=
  ((Shape.required "id" Uuid.codec).both <|
    (Shape.required "timestamp" Instant.codec).both <|
    (Shape.possible "component" ComponentRef.codec).both
    Payload.shape.heldBack).of
    (fun (id, timestamp, component, payload) => ⟨id, timestamp, component, payload⟩)
    (fun e => (e.id, e.timestamp, e.component, e.payload))

instance : Record Event where
  kind := .event
  codec := Codec.shared ownKeys shape
  id e := e.id
  readonly := assignedKeys

/-- Whether an event reports that a dataset was written. -/
def isWrite (e : Event) : Bool :=
  match e.payload with
  | .datasetOperation .write _ => true
  | _ => false

/-- The name of the component an event was reported for. -/
def componentLabel (e : Event) : Option String :=
  e.component.map ComponentRef.label

end Event

end RunWatch
