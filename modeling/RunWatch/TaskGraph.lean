import RunWatch.Platform.Run

/-!
# Task graphs

The order in which the tasks of a run depended on each other, inferred from their time windows alone.  A
task is linked to those that start when it has ended or later, except where a third task fits in between.

`link` finds the edges with one pass over the later tasks for each task, stopping at the first one that
starts when a successor found so far has already ended.  `linkByDefinition` says the same by asking, for
each pair, whether a third task fits in between.
-/

namespace RunWatch

open Json (Shape Codec)

/-- The time window of a task; without an end the task is still running. -/
structure Span where
  id : Uuid
  startTime : Instant
  endTime : Option Instant
  deriving DecidableEq

namespace Span

/-- The window of a step of a run. -/
def ofTask (t : RunTask) : Span :=
  ⟨t.id, t.startTime, t.endTime⟩

def shape : Shape Span :=
  ((Shape.required "id" Uuid.codec).both <|
    (Shape.required "start_time" Instant.codec).both <|
    Shape.possible "end_time" Instant.codec).of
    (fun (id, startTime, endTime) => ⟨id, startTime, endTime⟩)
    (fun s => (s.id, s.startTime, s.endTime))

def codec : Codec Span := Codec.record shape

end Span

/-- A link from a task to one that followed it. -/
structure Edge where
  source : Uuid
  target : Uuid
  deriving DecidableEq

namespace Edge

def shape : Shape Edge :=
  ((Shape.required "from" Uuid.codec).both (Shape.required "to" Uuid.codec)).of
    (fun (source, target) => ⟨source, target⟩) (fun e => (e.source, e.target))

def codec : Codec Edge := Codec.record shape

end Edge

/-! ## Windows in order -/

/-- A window with its end settled. -/
structure Window where
  id : Uuid
  start : Instant
  finish : Instant
  deriving DecidableEq

namespace Window

/-- The window of a span at a moment: a running task ends now. -/
def ofSpan (now : Instant) (s : Span) : Window :=
  ⟨s.id, s.startTime, s.endTime.getD now⟩

/-- Whether a window comes no later than another: by its start, then by its end. -/
def notAfter (a b : Window) : Bool :=
  decide (a.start < b.start) || (decide (a.start = b.start) && decide (a.finish ≤ b.finish))

/-- Windows in order of start and end; those with both in common keep their order. -/
def sort (ws : List Window) : List Window :=
  ws.mergeSort notAfter

/-- Whether a task may follow another: it starts when the other has ended or later, strictly after the
other's start, and is not the same task. -/
def mayFollow (a b : Window) : Bool :=
  decide (a.finish ≤ b.start) && decide (a.start < b.start) && decide (b.id ≠ a.id)

end Window

/-! ## Links -/

/-- The links from `source` to later windows, given the earliest end of a successor found so far. -/
def linksFrom (source : Window) : Option Instant → List Window → List Edge
  | _, [] => []
  | bound, w :: ws =>
    if bound.any fun b => decide (b ≤ w.start) then []
    else if source.mayFollow w then
      ⟨source.id, w.id⟩ :: linksFrom source (some (bound.elim w.finish (·.earlier w.finish))) ws
    else linksFrom source bound ws

/-- The links between windows that stand in order. -/
def linkSorted : List Window → List Edge
  | [] => []
  | w :: ws => linksFrom w none ws ++ linkSorted ws

/-- The links between tasks, with running tasks ending `now`. -/
def link (now : Instant) (spans : List Span) : List Edge :=
  linkSorted (Window.sort (spans.map (Window.ofSpan now)))

/-- The links between the steps of a run. -/
def linkTasks (now : Instant) (tasks : List RunTask) : List Edge :=
  link now (tasks.map Span.ofTask)

/-! ## The definition by pairs -/

/-- The links from `source`, by looking for a task in between among the windows already passed. -/
def linksFromByDefinition (source : Window) : List Window → List Window → List Edge
  | _, [] => []
  | passed, w :: ws =>
    let between := passed.any fun k => source.mayFollow k && decide (k.finish ≤ w.start)
    let rest := linksFromByDefinition source (passed ++ [w]) ws
    if source.mayFollow w && !between then ⟨source.id, w.id⟩ :: rest else rest

/-- The links between windows that stand in order, pair by pair. -/
def linkSortedByDefinition : List Window → List Edge
  | [] => []
  | w :: ws => linksFromByDefinition w [] ws ++ linkSortedByDefinition ws

/-- The links between tasks, pair by pair. -/
def linkByDefinition (now : Instant) (spans : List Span) : List Edge :=
  linkSortedByDefinition (Window.sort (spans.map (Window.ofSpan now)))

end RunWatch
