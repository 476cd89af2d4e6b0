import RunWatch.Platform.Record

/-!
# Schedules

The promises a component makes about time: a schedule in the manner of cron, with a zone and a margin,
for one of the expectations that its type allows.  A draft is a schedule that the platform has not
accepted yet.
-/

namespace RunWatch

open Json (Shape Codec)

/-- What a schedule promises. -/
inductive Expectation where
  /-- A batch run starts by the time. -/
  | batchStart
  /-- A batch run ends by the time. -/
  | batchEnd
  /-- A dataset is written within the window. -/
  | datasetArrival
  deriving DecidableEq

namespace Expectation

/-- The name of an expectation in JSON. -/
def wireName : Expectation → String
  | batchStart => "BATCH_PIPELINE_START_TIME"
  | batchEnd => "BATCH_PIPELINE_END_TIME"
  | datasetArrival => "DATASET_ARRIVAL"

/-- The name of an expectation in messages. -/
def label : Expectation → String
  | batchStart => "BatchPipelineStartTime"
  | batchEnd => "BatchPipelineEndTime"
  | datasetArrival => "DatasetArrival"

def all : List Expectation := [batchStart, batchEnd, datasetArrival]

def codec : Codec Expectation :=
  Codec.constant (all.map fun e => (e.wireName, e)) wireName

end Expectation

/-- A schedule of a component.  The margin is in seconds. -/
structure Schedule where
  id : Uuid
  component : Option Uuid
  schedule : String
  timezone : Option String
  margin : Option UInt64
  expectation : Expectation
  deriving DecidableEq

namespace Schedule

def shape : Shape Schedule :=
  ((Shape.required "id" Uuid.codec).both <|
    (Shape.possible "component" Uuid.codec).both <|
    (Shape.required "schedule" Codec.text).both <|
    (Shape.possible "timezone" Codec.text).both <|
    (Shape.possible "margin" Codec.uint64).both <|
    Shape.required "expectation" Expectation.codec).of
    (fun (id, component, schedule, timezone, margin, expectation) =>
      ⟨id, component, schedule, timezone, margin, expectation⟩)
    (fun s => (s.id, s.component, s.schedule, s.timezone, s.margin, s.expectation))

instance : Record Schedule where
  kind := .schedule
  codec := Codec.record shape
  id s := s.id
  readonly := ["component"]

end Schedule

/-- What is sent to create a schedule or to replace one. -/
structure ScheduleDraft where
  schedule : String
  timezone : Option String
  margin : Option UInt64
  expectation : Expectation
  deriving DecidableEq

namespace ScheduleDraft

def shape : Shape ScheduleDraft :=
  ((Shape.required "schedule" Codec.text).both <|
    (Shape.possible "timezone" Codec.text).both <|
    (Shape.possible "margin" Codec.uint64).both <|
    Shape.required "expectation" Expectation.codec).of
    (fun (schedule, timezone, margin, expectation) => ⟨schedule, timezone, margin, expectation⟩)
    (fun d => (d.schedule, d.timezone, d.margin, d.expectation))

def codec : Codec ScheduleDraft := Codec.record shape

/-- Whether a schedule already makes the promise of a draft. -/
def fits (d : ScheduleDraft) (s : Schedule) : Bool :=
  d.expectation = s.expectation && d.schedule = s.schedule && d.timezone = s.timezone &&
    d.margin = s.margin

end ScheduleDraft

end RunWatch
