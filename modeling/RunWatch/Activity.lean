import RunWatch.Api.Dialogue

/-!
# Activities

What one party does to a state that it shares with others: it changes the state, converses with the
platform, leaves log entries and waits.  Only while it waits, for a reply or for a while, can others
change the state; a pause of no time at all stands where a lock is given back and another taken.  An
activity is a value; `RunWatch.Rehearsal` plays several of them together.
-/

namespace RunWatch

/-- Work on a shared `S` that comes to an `α`. -/
inductive Activity (S α : Type) where
  /-- The work is done. -/
  | finished (a : α)
  /-- A request is sent, and the reply decides how to go on. -/
  | asking (request : Api.Request) (next : Api.Reply → Activity S α)
  /-- An entry is left in the log. -/
  | noting (entry : LogEntry) (next : Activity S α)
  /-- The state is changed; how to go on depends on the state before. -/
  | touching (change : S → S) (next : S → Activity S α)
  /-- Some milliseconds pass. -/
  | pausing (time : Nat) (next : Activity S α)

namespace Activity

/-- Goes on with what an activity comes to. -/
def bind (f : α → Activity S β) : Activity S α → Activity S β
  | finished a => f a
  | asking request next => asking request fun reply => (next reply).bind f
  | noting entry next => noting entry (next.bind f)
  | touching change next => touching change fun s => (next s).bind f
  | pausing time next => pausing time (next.bind f)

instance : Monad (Activity S) where
  pure := finished
  bind a f := a.bind f

/-- A conversation, which leaves the state alone. -/
def ofDialogue : Api.Dialogue α → Activity S α
  | .answer a => finished a
  | .ask request next => asking request fun reply => ofDialogue (next reply)
  | .note entry next => noting entry (ofDialogue next)

/-- Changes the state and tells what came of it. -/
def transact (f : S → S × α) : Activity S α :=
  touching (fun s => (f s).1) fun s => finished (f s).2

/-- Changes the state. -/
def alter (f : S → S) : Activity S Unit :=
  touching f fun _ => finished ()

/-- Leaves some entries in the log. -/
def report : List LogEntry → Activity S Unit
  | [] => finished ()
  | e :: es => noting e (report es)

/-- Waits for a while. -/
def pause (time : Nat) : Activity S Unit :=
  pausing time (finished ())

/-- The same work as part of a larger state. -/
def within (get : T → S) (set : S → T → T) : Activity S α → Activity T α
  | finished a => finished a
  | asking request next => asking request fun reply => (next reply).within get set
  | noting entry next => noting entry (next.within get set)
  | touching change next =>
    touching (fun t => set (change (get t)) t) fun t => (next (get t)).within get set
  | pausing time next => pausing time (next.within get set)

end Activity

end RunWatch
