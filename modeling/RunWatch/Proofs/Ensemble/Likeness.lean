import RunWatch.Proofs.Ensemble

/-!
# Activities that cannot be told apart

Two activities are alike if they send the same requests, leave the same entries and do the same to the state
as far as a relation between their states goes.  `Alike.bind`, `Alike.within` and the lemmas on the single
steps build likeness up from the parts of an activity; `Alike.advance` turns it into what others see of the
two.
-/

namespace RunWatch

variable {S T α β : Type}

namespace Activity

/-- Activities that send the same requests and leave the same entries, and that keep states related which
are related, up to results in `val`. -/
inductive Alike (rel : S → T → Prop) (val : α → β → Prop) : Activity S α → Activity T β → Prop where
  | finished {a : α} {b : β} (h : val a b) : Alike rel val (.finished a) (.finished b)
  | asking {request : Api.Request} {next : Api.Reply → Activity S α} {next' : Api.Reply → Activity T β}
      (h : ∀ reply, Alike rel val (next reply) (next' reply)) :
      Alike rel val (.asking request next) (.asking request next')
  | noting {entry : LogEntry} {next : Activity S α} {next' : Activity T β} (h : Alike rel val next next') :
      Alike rel val (.noting entry next) (.noting entry next')
  | touching {change : S → S} {change' : T → T} {next : S → Activity S α} {next' : T → Activity T β}
      (hchange : ∀ s t, rel s t → rel (change s) (change' t))
      (hnext : ∀ s t, rel s t → Alike rel val (next s) (next' t)) :
      Alike rel val (.touching change next) (.touching change' next')
  | pausing {time : Nat} {next : Activity S α} {next' : Activity T β} (h : Alike rel val next next') :
      Alike rel val (.pausing time next) (.pausing time next')

namespace Alike

variable {α' β' : Type} {rel : S → T → Prop} {val : α → β → Prop} {val' : α' → β' → Prop}

/-- Nothing tells an activity from itself. -/
theorem refl (a : Activity S α) : Alike Eq Eq a a := by
  induction a with
  | finished a => exact .finished rfl
  | asking request next ih => exact .asking ih
  | noting entry next ih => exact .noting ih
  | touching change next ih =>
    refine .touching (fun s t hst => congrArg change hst) fun s t hst => ?_
    rw [hst]
    exact ih t
  | pausing time next ih => exact .pausing ih

theorem bind {a : Activity S α} {b : Activity T β} (h : Alike rel val a b) {f : α → Activity S α'}
    {g : β → Activity T β'} (hf : ∀ x y, val x y → Alike rel val' (f x) (g y)) :
    Alike rel val' (a.bind f) (b.bind g) := by
  induction h with
  | finished h => exact hf _ _ h
  | asking _ ih => exact .asking ih
  | noting _ ih => exact .noting ih
  | touching hchange _ ih => exact .touching hchange ih
  | pausing _ ih => exact .pausing ih

/-- A conversation does not depend on the state. -/
theorem ofDialogue (d : Api.Dialogue α) : Alike rel Eq (Activity.ofDialogue d) (Activity.ofDialogue d) := by
  induction d with
  | answer a => exact .finished rfl
  | ask request next ih => exact .asking ih
  | note entry rest ih => exact .noting ih

theorem transact (val : α → β → Prop) {f : S → S × α} {g : T → T × β}
    (h : ∀ s t, rel s t → rel (f s).1 (g t).1 ∧ val (f s).2 (g t).2) :
    Alike rel val (Activity.transact f) (Activity.transact g) :=
  .touching (fun s t hst => (h s t hst).1) fun s t hst => .finished (h s t hst).2

theorem report (entries : List LogEntry) : Alike rel Eq (Activity.report entries) (Activity.report entries) := by
  induction entries with
  | nil => exact .finished rfl
  | cons entry entries ih => exact .noting ih

/-- Work on parts that are related is work on the wholes. -/
theorem within {S' T' : Type} {rel' : S' → T' → Prop} {get : S' → S} {set : S → S' → S'} {get' : T' → T}
    {set' : T → T' → T'} (hget : ∀ s t, rel' s t → rel (get s) (get' t))
    (hset : ∀ s t x y, rel' s t → rel x y → rel' (set x s) (set' y t)) {a : Activity S α}
    {b : Activity T β} (h : Alike rel val a b) :
    Alike rel' val (a.within get set) (b.within get' set') := by
  induction h with
  | finished h => exact .finished h
  | asking _ ih => exact .asking ih
  | noting _ ih => exact .noting ih
  | touching hchange _ ih =>
    exact .touching (fun s t hst => hset s t _ _ hst (hchange _ _ (hget s t hst)))
      fun s t hst => ih _ _ (hget s t hst)
  | pausing _ ih => exact .pausing ih

end Alike

end Activity

/-- Parties that wait for the same, or have come to the same, and go on alike. -/
structure Party.Alike (rel : S → T → Prop) (p : Party S α) (q : Party T α) : Prop where
  sight : p.sight = q.sight
  onward : ∀ signal, Option.Rel (Activity.Alike rel Eq) (p.onward? signal) (q.onward? signal)

theorem Activity.Alike.advance {rel : S → T → Prop} {a : Activity S α} {b : Activity T α}
    (h : a.Alike rel Eq b) {s : S} {t : T} (hst : rel s t) :
    rel (a.advance s).1 (b.advance t).1 ∧ (a.advance s).2.Alike rel (b.advance t).2 := by
  induction h generalizing s t with
  | finished h =>
    subst h
    refine ⟨hst, rfl, fun signal => ?_⟩
    cases signal <;> exact .none
  | asking h =>
    refine ⟨hst, rfl, fun signal => ?_⟩
    cases signal with
    | reply r => exact .some (h r)
    | time => exact .none
  | noting _ ih => exact ih hst
  | touching hchange _ ih => exact ih s t hst (hchange s t hst)
  | pausing h =>
    refine ⟨hst, rfl, fun signal => ?_⟩
    cases signal with
    | reply r => exact .none
    | time => exact .some h

end RunWatch
