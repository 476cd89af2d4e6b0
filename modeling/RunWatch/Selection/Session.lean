import RunWatch.Cache.Work
import RunWatch.Selection.Projects

/-!
# Sessions

A cache of projects together with the storage of its selection and the keepers at work between the two.
-/

namespace RunWatch

/-- The projects, the storage and the keepers, the one that started first in front. -/
structure Session (σ : Type) where
  projects : Cache Project
  storage : σ
  keepers : List Keeper

namespace Session

variable {σ : Type} [SelectionStorage σ]

/-- Work on the projects. -/
def onProjects (a : Activity (Cache Project) α) : Activity (Session σ) α :=
  a.within Session.projects fun projects s => { s with projects }

/-- Fetches a project and singles it out. -/
def performSelect (id : Uuid) : Activity (Session σ) (Except CacheFault (Change Project × Bool)) := do
  let flight ← .transact fun s : Session σ =>
    let (projects, flight) := Projects.issueSelect s.projects id
    ({ s with projects }, flight)
  onProjects (Cache.complete flight)

/-- Brings the stored project back. -/
def restore (s : Session σ) : Session σ × Except CacheFault (Option Project) :=
  match Projects.restore s.projects s.storage with
  | .ok (projects, project) => ({ s with projects }, .ok project)
  | .error fault => (s, .error fault)

/-- Puts one more keeper to work. -/
def beginKeeping (s : Session σ) : Session σ :=
  { s with keepers := s.keepers ++ [Keeper.start s.projects] }

/-- Ends the work of the keeper that started last. -/
def endKeeping (s : Session σ) : Session σ :=
  { s with keepers := s.keepers.dropLast }

/-- The look of some keepers, one after the other. -/
def lookAll (projects : Cache Project) : List Keeper → σ → List Keeper × σ × List LogEntry
  | [], storage => ([], storage, [])
  | k :: ks, storage =>
    let (k, storage, entries) := k.look projects Projects.selectionKey storage
    let (ks, storage, more) := lookAll projects ks storage
    (k :: ks, storage, entries ++ more)

/-- Lets every keeper look. -/
def attend (s : Session σ) : Session σ × List LogEntry :=
  let (keepers, storage, entries) := lookAll s.projects s.keepers s.storage
  ({ s with keepers, storage }, entries)

end Session

end RunWatch
