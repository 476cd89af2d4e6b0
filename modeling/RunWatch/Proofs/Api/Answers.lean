import RunWatch.Api.Dialogue

/-!
# What calls come to

`Call.Yields P d` says that whatever replies arrive, the call `d` either fails or comes to an answer with
`P`.  It is how the answers of a call are known before its replies are.
-/

namespace RunWatch.Api.Call

/-- A call all of whose answers, if it does not fail, are of some sort. -/
def Yields {α : Type} (P : α → Prop) : Call α → Prop
  | .answer (.ok a) => P a
  | .answer (.error _) => True
  | .ask _ next => ∀ reply, Yields P (next reply)
  | .note _ rest => Yields P rest

variable {α β : Type}

theorem yields_of_forall {P : α → Prop} (h : ∀ a, P a) (d : Call α) : d.Yields P := by
  induction d with
  | answer a =>
    cases a with
    | ok a => exact h a
    | error fault => trivial
  | ask request next ih => exact ih
  | note entry rest ih => exact ih

theorem yields_map {P : β → Prop} {f : α → β} {d : Call α} (h : d.Yields fun a => P (f a)) :
    Yields P (Dialogue.map (Except.map f) d) := by
  induction d with
  | answer a =>
    cases a with
    | ok a => exact h
    | error fault => trivial
  | ask request next ih => exact fun reply => ih reply (h reply)
  | note entry rest ih => exact ih h

end RunWatch.Api.Call
