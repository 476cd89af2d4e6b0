import RunWatch.Cache.Fault
import RunWatch.Platform.Component

/-!
# Schedule plans

The steps that bring the schedules of a component in line with drafts, one expectation after the other.
A schedule that already fits its draft is left alone.  `ScheduleStep.carryOut` says what a step does to a
list of schedules.
-/

namespace RunWatch

/-- A step that changes one schedule. -/
inductive ScheduleStep where
  | create (draft : ScheduleDraft)
  | replace (id : Uuid) (draft : ScheduleDraft)
  | delete (id : Uuid)
  deriving DecidableEq

namespace ScheduleDraft

/-- A schedule of a component with the promise of a draft. -/
def toSchedule (d : ScheduleDraft) (id : Uuid) (component : Option Uuid) : Schedule :=
  ⟨id, component, d.schedule, d.timezone, d.margin, d.expectation⟩

end ScheduleDraft

namespace ScheduleStep

/-- The schedules of a component after a step; `newId` is the identifier that a created schedule gets. -/
def carryOut (newId : Uuid) : ScheduleStep → List Schedule → List Schedule
  | create d, ss => ss ++ [d.toSchedule newId none]
  | replace id d, ss => ss.map fun s => if s.id = id then d.toSchedule s.id s.component else s
  | delete id, ss => ss.filter fun s => s.id ≠ id

end ScheduleStep

namespace SchedulePlan

/-- The first draft for an expectation. -/
def draft? (drafts : List ScheduleDraft) (e : Expectation) : Option ScheduleDraft :=
  drafts.find? fun d => d.expectation = e

/-- The step that one expectation needs, if it needs one. -/
def step? (existing : Option Schedule) (draft : Option ScheduleDraft) : Option ScheduleStep :=
  match existing, draft with
  | some s, some d => if d.fits s then none else some (.replace s.id d)
  | some s, none => some (.delete s.id)
  | none, some d => some (.create d)
  | none, none => none

/-- The message about a draft that a component cannot carry. -/
def refusal (d : ScheduleDraft) (t : ComponentType) : String :=
  d.expectation.label ++ " schedules are not supported for " ++ t.label ++ " components"

/-- The steps that bring a component's schedules in line with drafts.  A draft for an expectation that
the component's type does not allow is refused. -/
def plan (c : Component) (drafts : List ScheduleDraft) : Except CacheFault (List ScheduleStep) :=
  match drafts.find? fun d => !c.type.allowed.contains d.expectation with
  | some d => .error (.invalid (refusal d c.type))
  | none => .ok (c.type.allowed.filterMap fun e => step? (c.schedule? e) (draft? drafts e))

end SchedulePlan

end RunWatch
