import RunWatch.Selection.Keeper

/-!
# Projects

The cache of projects.  The project singled out is the one thing that outlives a session: a `Keeper` stores
it, and `Projects.restore` brings it back.
-/

namespace RunWatch

namespace Projects

variable {σ : Type} [SelectionStorage σ]

/-- The key under which the selected project is stored. -/
def selectionKey : String := "selected_project"

/-- The stored project, if there is one. -/
def stored? (storage : σ) : Except CacheFault (Option Project) :=
  match SelectionStorage.load storage selectionKey with
  | .error fault => .error fault
  | .ok none => .ok none
  | .ok (some value) =>
    match Record.decode? (R := Project) value with
    | some p => .ok (some p)
    | none => .error (.corrupt "the stored selection is not a project")

/-- Brings the stored project back into the cache, where only the selection changes. -/
def restore (c : Cache Project) (storage : σ) : Except CacheFault (Cache Project × Option Project) :=
  match stored? storage with
  | .error fault => .error fault
  | .ok none => .ok (c, none)
  | .ok (some p) => .ok (c.dispatch (.select (some p)), some p)

/-- Fetches a project and singles it out. -/
def issueSelect (c : Cache Project) (id : Uuid) : Cache Project × Flight Project :=
  c.issue (.getOne id)

end Projects

end RunWatch
