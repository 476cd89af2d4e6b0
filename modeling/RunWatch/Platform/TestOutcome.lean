import RunWatch.Platform.Measurement
import RunWatch.Platform.Run

/-!
# Test outcomes and instances

The results of data tests against components, and the executions of journeys.
-/

namespace RunWatch

open Json (Shape Codec)

/-- The result of one data test. -/
structure TestOutcome where
  id : Uuid
  name : String
  status : TestStatus
  description : Option String
  startTime : Option Instant
  endTime : Option Instant
  component : ComponentRef
  minThreshold : Option Measurement
  maxThreshold : Option Measurement
  deriving DecidableEq

namespace TestOutcome

def shape : Shape TestOutcome :=
  ((Shape.required "id" Uuid.codec).both <|
    (Shape.required "name" Codec.text).both <|
    (Shape.required "status" TestStatus.codec).both <|
    (Shape.possible "description" Codec.text).both <|
    (Shape.possible "start_time" Instant.codec).both <|
    (Shape.possible "end_time" Instant.codec).both <|
    (Shape.required "component" ComponentRef.codec).both <|
    (Shape.possible "min_threshold" Measurement.codec).both <|
    Shape.possible "max_threshold" Measurement.codec).of
    (fun (id, name, status, description, startTime, endTime, component, low, high) =>
      ⟨id, name, status, description, startTime, endTime, component, low, high⟩)
    (fun t => (t.id, t.name, t.status, t.description, t.startTime, t.endTime, t.component,
      t.minThreshold, t.maxThreshold))

instance : Record TestOutcome where
  kind := .testOutcome
  codec := Codec.record shape
  id t := t.id
  readonly := assignedKeys

end TestOutcome

/-- A short reference to a journey. -/
structure JourneyRef where
  id : Uuid
  name : Option String
  deriving DecidableEq

namespace JourneyRef

def shape : Shape JourneyRef :=
  ((Shape.required "id" Uuid.codec).both (Shape.possible "name" Codec.text)).of
    (fun (id, name) => ⟨id, name⟩) (fun j => (j.id, j.name))

def codec : Codec JourneyRef := Codec.record shape

end JourneyRef

/-- One execution of a journey. -/
structure JourneyInstance where
  id : Uuid
  journey : JourneyRef
  active : Bool
  startTime : Instant
  endTime : Option Instant
  runsSummary : List (StatusCount RunStatus)
  testsSummary : List (StatusCount TestStatus)
  alertsSummary : List (StatusCount AlertLevel)
  deriving DecidableEq

namespace JourneyInstance

/-- The parts of an instance; one without the key `active` is over. -/
def shape : Shape JourneyInstance :=
  ((Shape.required "id" Uuid.codec).both <|
    (Shape.required "journey" JourneyRef.codec).both <|
    (Shape.defaulted "active" Codec.flag false).both <|
    (Shape.required "start_time" Instant.codec).both <|
    (Shape.possible "end_time" Instant.codec).both <|
    (Shape.defaulted "runs_summary" (Codec.list (StatusCount.codec RunStatus)) []).both <|
    (Shape.defaulted "tests_summary" (Codec.list (StatusCount.codec TestStatus)) []).both <|
    Shape.defaulted "alerts_summary" (Codec.list (StatusCount.codec AlertLevel)) []).of
    (fun (id, journey, active, startTime, endTime, runs, tests, alerts) =>
      ⟨id, journey, active, startTime, endTime, runs, tests, alerts⟩)
    (fun i => (i.id, i.journey, i.active, i.startTime, i.endTime, i.runsSummary, i.testsSummary,
      i.alertsSummary))

instance : Record JourneyInstance where
  kind := .journeyInstance
  codec := Codec.record shape
  id i := i.id
  readonly := assignedKeys

end JourneyInstance

end RunWatch
