import RunWatch.Platform.Profile
import RunWatch.Platform.Schedule

/-!
# Components

The pipelines, datasets and servers of a project, and the short references by which runs, tests and
events name them.
-/

namespace RunWatch

open Json (Shape Codec)

/-- The type of a component. -/
inductive ComponentType where
  | batchPipeline
  | streamingPipeline
  | dataset
  | server
  deriving DecidableEq

namespace ComponentType

/-- The name of a type in JSON. -/
def wireName : ComponentType → String
  | batchPipeline => "BATCH_PIPELINE"
  | streamingPipeline => "STREAMING_PIPELINE"
  | dataset => "DATASET"
  | server => "SERVER"

/-- The name of a type in messages. -/
def label : ComponentType → String
  | batchPipeline => "Batch pipeline"
  | streamingPipeline => "Streaming pipeline"
  | dataset => "Dataset"
  | server => "Server"

/-- The expectations that schedules of such a component may have. -/
def allowed : ComponentType → List Expectation
  | batchPipeline => [.batchStart, .batchEnd]
  | dataset => [.datasetArrival]
  | streamingPipeline | server => []

def all : List ComponentType := [batchPipeline, streamingPipeline, dataset, server]

def codec : Codec ComponentType :=
  Codec.constant (all.map fun t => (t.wireName, t)) wireName

end ComponentType

/-- A watched component of a project. -/
structure Component where
  profile : Profile
  type : ComponentType
  key : String
  tool : Option String
  displayName : Option String
  project : Option Uuid
  schedules : List Schedule
  deriving DecidableEq

namespace Component

/-- The keys that are a component's own, beside those of its profile. -/
def ownKeys : List String := ["type", "key", "tool", "display_name", "project", "schedules"]

def shape : Shape Component :=
  (Profile.shape.heldBack.both <|
    (Shape.required "type" ComponentType.codec).both <|
    (Shape.required "key" Codec.text).both <|
    (Shape.possible "tool" Codec.text).both <|
    (Shape.possible "display_name" Codec.text).both <|
    (Shape.possible "project" Uuid.codec).both <|
    Shape.defaulted "schedules" (Codec.list (Record.codec (R := Schedule))) []).of
    (fun (profile, type, key, tool, displayName, project, schedules) =>
      ⟨profile, type, key, tool, displayName, project, schedules⟩)
    (fun c => (c.profile, c.type, c.key, c.tool, c.displayName, c.project, c.schedules))

instance : Record Component where
  kind := .component
  codec := Codec.shared ownKeys shape
  id c := c.profile.id
  readonly := assignedKeys ++ ["project", "schedules", "type"]

/-- The name that people know a component by: its display name, or else its key. -/
def label (c : Component) : String :=
  c.displayName.getD c.key

/-- The first schedule of a component for an expectation. -/
def schedule? (c : Component) (e : Expectation) : Option Schedule :=
  c.schedules.find? fun s => s.expectation = e

/-- Whether a component is a pipeline. -/
def isPipeline (c : Component) : Bool :=
  c.type = .batchPipeline || c.type = .streamingPipeline

end Component

/-- A short reference to a component. -/
structure ComponentRef where
  id : Uuid
  key : Option String
  displayName : Option String
  tool : Option String
  deriving DecidableEq

namespace ComponentRef

def shape : Shape ComponentRef :=
  ((Shape.required "id" Uuid.codec).both <|
    (Shape.possible "key" Codec.text).both <|
    (Shape.possible "display_name" Codec.text).both <|
    Shape.possible "tool" Codec.text).of
    (fun (id, key, displayName, tool) => ⟨id, key, displayName, tool⟩)
    (fun c => (c.id, c.key, c.displayName, c.tool))

def codec : Codec ComponentRef := Codec.record shape

/-- The best name a reference has: display name, key or identifier. -/
def label (c : ComponentRef) : String :=
  (c.displayName.or c.key).getD c.id.text

end ComponentRef

end RunWatch
