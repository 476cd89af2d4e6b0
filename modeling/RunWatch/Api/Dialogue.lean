import RunWatch.Api.Fault
import RunWatch.Log

/-!
# Dialogues

An effect on the platform as a value: the requests it sends, what it does with each reply, the log
entries it leaves on the way, and the answer it comes to.  Whoever holds a dialogue decides when its
replies arrive, so the interleaving of several effects is a matter of the holder alone.
-/

namespace RunWatch.Api

/-- A conversation with the platform that comes to an `α`. -/
inductive Dialogue (α : Type) where
  /-- The conversation is over. -/
  | answer (a : α)
  /-- A request is sent, and the reply decides how to go on. -/
  | ask (request : Request) (next : Reply → Dialogue α)
  /-- An entry is left in the log. -/
  | note (entry : LogEntry) (next : Dialogue α)

namespace Dialogue

/-- Goes on with the answer of a dialogue. -/
def bind (f : α → Dialogue β) : Dialogue α → Dialogue β
  | answer a => f a
  | ask request next => ask request fun reply => (next reply).bind f
  | note entry next => note entry (next.bind f)

instance : Monad Dialogue where
  pure := answer
  bind d f := d.bind f

/-- Changes the answer of a dialogue. -/
def map (f : α → β) (d : Dialogue α) : Dialogue β :=
  d.bind fun a => answer (f a)

/-- Leaves an entry in the log. -/
def log (entry : LogEntry) : Dialogue Unit :=
  note entry (answer ())

/-- Holds a dialogue to its end with replies that depend on the request alone: the entries it leaves in the
log, and its answer. -/
def hold (reply : Request → Reply) : Dialogue α → List LogEntry × α
  | answer a => ([], a)
  | ask request next => (next (reply request)).hold reply
  | note entry next => (entry :: (next.hold reply).1, (next.hold reply).2)

/-- The dialogue after a reply, if it was waiting for one. -/
def receive (reply : Reply) : Dialogue α → Option (Dialogue α)
  | ask _ next => some (next reply)
  | _ => none

end Dialogue

/-- A dialogue that may come to a fault. -/
abbrev Call (α : Type) := Dialogue (Except Fault α)

namespace Call

/-- Goes on with the answer of a call unless it failed. -/
def andThen (c : Call α) (f : α → Call β) : Call β :=
  Dialogue.bind (fun
    | .ok a => f a
    | .error fault => .answer (.error fault)) c

end Call

end RunWatch.Api
