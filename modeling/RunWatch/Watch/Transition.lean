import RunWatch.Log
import RunWatch.Platform.Run

/-!
# Transitions

How the status of each run moves from one look at the runs to the next.  `transitions` compares some runs
with the statuses known so far and remembers the new ones.
-/

namespace RunWatch.Watch

/-- A run whose status is not the one known before. -/
structure Transition where
  run : Uuid
  key : String
  /-- The status known before, if the run was known. -/
  was : Option RunStatus
  /-- The status that the run has now. -/
  status : RunStatus
  deriving DecidableEq

/-- The last known status of each run. -/
abbrev Known := List (Uuid × RunStatus)

namespace Known

/-- The status known for a run. -/
def find? (id : Uuid) (known : Known) : Option RunStatus :=
  (List.find? (fun k => k.1 = id) known).map Prod.snd

/-- Remembers the status of a run. -/
def set (id : Uuid) (status : RunStatus) : Known → Known
  | [] => [(id, status)]
  | (k, s) :: rest => if k = id then (id, status) :: rest else (k, s) :: set id status rest

end Known

/-- The transition of one run, if it has made one. -/
def transition? (known : Known) (r : Run) : Option Transition :=
  if known.find? r.id = some r.status then none
  else some ⟨r.id, r.key, known.find? r.id, r.status⟩

/-- The transitions of some runs, and the statuses known after them. -/
def transitions (known : Known) : List Run → Known × List Transition
  | [] => (known, [])
  | r :: rs =>
    let (after, rest) := transitions (known.set r.id r.status) rs
    (after, (transition? known r).toList ++ rest)

/-- What is reported about a transition; a run that was not known before is not news. -/
def Transition.report (t : Transition) : List LogEntry :=
  match t.was with
  | some was => [.info .watcher ("Run " ++ t.key ++ " changed: " ++ was.label ++ " -> " ++ t.status.label)]
  | none => []

end RunWatch.Watch
