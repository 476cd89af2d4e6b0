import RunWatch.Activity

/-!
# Rehearsals

How activities play out together when every response is known in advance: the responses are handed out in
the order in which requests are sent, each arrives after a delay of its own, and the clock moves on only
when everybody waits.

An activity runs without interruption until it waits.  Of those that go on at the same moment, the cast
comes first and in its order, then what goes on in the background, then what begins there; after that the
attendant has a look at the state.
-/

namespace RunWatch

/-- A response that stands ready, and how many milliseconds it takes to arrive. -/
structure Cue where
  response : Api.Response
  delay : Nat

namespace Cue

/-- What answers a request when no response is left. -/
def missing : Cue := ⟨⟨500, "no response queued"⟩, 0⟩

end Cue

/-- A state on which activities play, with the responses to come and the record of the play. -/
structure Stage (S : Type) where
  state : S
  cues : List Cue
  clock : Nat
  /-- The requests sent, the first one first. -/
  asked : List Api.Request
  /-- The entries of the log, the first one first. -/
  log : List LogEntry

namespace Stage

/-- A stage on which nothing has happened. -/
def new (state : S) (cues : List Cue) : Stage S := ⟨state, cues, 0, [], []⟩

/-- The same stage with an empty record. -/
def cleared (st : Stage S) : Stage S :=
  { st with asked := [], log := [] }

/-- Hands out the next response. -/
def answer (st : Stage S) (request : Api.Request) : Cue × Stage S :=
  let st := { st with asked := st.asked ++ [request] }
  match st.cues with
  | cue :: cues => (cue, { st with cues })
  | [] => (.missing, st)

/-- Leaves entries in the log. -/
def note (st : Stage S) (entries : List LogEntry) : Stage S :=
  { st with log := st.log ++ entries }

end Stage

/-- Where an activity stands. -/
inductive Turn (S α : Type) where
  | ended (a : α)
  | waiting (due : Nat) (rest : Activity S α)

namespace Turn

/-- The moment at which an activity goes on. -/
def due? : Turn S α → Option Nat
  | ended _ => none
  | waiting due _ => some due

/-- What an activity has come to. -/
def result? : Turn S α → Option α
  | ended a => some a
  | waiting .. => none

end Turn

namespace Activity

/-- Plays an activity until it waits or is over. -/
def play : Activity S α → Stage S → Stage S × Turn S α
  | finished a, st => (st, .ended a)
  | asking request next, st =>
    let (cue, st) := st.answer request
    if cue.delay = 0 then (next (.response cue.response)).play st
    else (st, .waiting (st.clock + cue.delay) (next (.response cue.response)))
  | noting entry next, st => next.play (st.note [entry])
  | touching change next, st => (next st.state).play { st with state := change st.state }
  | pausing time next, st =>
    if time = 0 then next.play st else (st, .waiting (st.clock + time) next)

end Activity

/-- Activities that play together. -/
structure Rehearsal (S α : Type) where
  stage : Stage S
  /-- Those whose results are wanted. -/
  cast : List (Turn S α)
  /-- Those that wait in the background. -/
  background : List (Turn S Unit)
  /-- Those that begin in the background later. -/
  coming : List (Turn S Unit)

namespace Rehearsal

/-- The cast after those whose moment has come went on. -/
def playDue : List (Turn S α) → Stage S → Stage S × List (Turn S α)
  | [], st => (st, [])
  | .ended a :: turns, st =>
    let (st, turns) := playDue turns st
    (st, .ended a :: turns)
  | .waiting due rest :: turns, st =>
    if due ≤ st.clock then
      let (st, turn) := rest.play st
      let (st, turns) := playDue turns st
      (st, turn :: turns)
    else
      let (st, turns) := playDue turns st
      (st, .waiting due rest :: turns)

/-- Those whose moment has come, and the others. -/
def partDue (clock : Nat) (turns : List (Turn S Unit)) : List (Turn S Unit) × List (Turn S Unit) :=
  turns.partition fun t => t.due?.any (· ≤ clock)

/-- Those of some turns that still wait. -/
def stillWaiting (turns : List (Turn S Unit)) : List (Turn S Unit) :=
  turns.filter fun t => t.due?.isSome

/-- Everything that happens at the moment at which the clock stands. -/
def moment (attend : S → S × List LogEntry) (r : Rehearsal S α) : Rehearsal S α :=
  let (stage, cast) := playDue r.cast r.stage
  let (due, waiting) := partDue stage.clock r.background
  let (stage, resumed) := playDue due stage
  let (beginning, coming) := partDue stage.clock r.coming
  let (stage, begun) := playDue beginning stage
  let (state, entries) := attend stage.state
  { stage := { stage with state }.note entries
    cast
    background := waiting ++ stillWaiting resumed ++ stillWaiting begun
    coming }

/-- The moment at which the next activity goes on, while a member of the cast still plays. -/
def nextMoment? (r : Rehearsal S α) : Option Nat :=
  if r.cast.all fun t => t.due?.isNone then none
  else (r.cast.filterMap Turn.due? ++ r.background.filterMap Turn.due? ++ r.coming.filterMap Turn.due?).min?

/-- Plays from moment to moment until the cast is done, `fuel` moments at most. -/
def run (attend : S → S × List LogEntry) : Nat → Rehearsal S α → Rehearsal S α
  | 0, r => r
  | fuel + 1, r =>
    let r := r.moment attend
    match r.nextMoment? with
    | none => r
    | some time => run attend fuel { r with stage := { r.stage with clock := time } }

/-- A scene: the cast, and what begins in the background after some milliseconds. -/
structure Scene (S α : Type) where
  cast : List (Activity S α)
  begins : List (Nat × Activity S Unit)

/-- As many moments as a rehearsal can have: every moment after the first needs a response that arrives, a
pause that ends or something that begins; a member of the cast pauses twice at most. -/
def moments (r : Rehearsal S α) : Nat :=
  r.stage.cues.length + 2 * r.cast.length + r.background.length + r.coming.length + 2

/-- Plays a scene on a stage with what is left in the background from before. -/
def playScene (attend : S → S × List LogEntry) (stage : Stage S) (background : List (Turn S Unit))
    (scene : Scene S α) : Rehearsal S α :=
  let r : Rehearsal S α :=
    { stage
      cast := scene.cast.map (.waiting stage.clock)
      background
      coming := scene.begins.map fun b => .waiting (stage.clock + b.1) b.2 }
  r.run attend r.moments

end Rehearsal

end RunWatch
