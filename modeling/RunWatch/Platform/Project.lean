import RunWatch.Platform.Profile

/-!
# Projects and journeys

A project groups components and journeys; a journey is a graph of components that are watched together.
Both carry a profile beside their own members.
-/

namespace RunWatch

open Json (Shape Codec)

/-- A project. -/
structure Project where
  profile : Profile
  deriving DecidableEq

namespace Project

def shape : Shape Project :=
  Profile.shape.heldBack.of (fun p => ⟨p⟩) (fun p => p.profile)

instance : Record Project where
  kind := .project
  codec := Codec.shared [] shape
  id p := p.profile.id
  readonly := assignedKeys

end Project

/-- A journey through the components of a project. -/
structure Journey where
  profile : Profile
  project : Option Uuid
  deriving DecidableEq

namespace Journey

def shape : Shape Journey :=
  (Profile.shape.heldBack.both (Shape.possible "project" Uuid.codec)).of
    (fun (profile, project) => ⟨profile, project⟩) (fun j => (j.profile, j.project))

instance : Record Journey where
  kind := .journey
  codec := Codec.shared ["project"] shape
  id j := j.profile.id
  readonly := assignedKeys ++ ["project"]

end Journey

end RunWatch
