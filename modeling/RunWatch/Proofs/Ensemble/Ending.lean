import RunWatch.Proofs.Ensemble.Requests

/-!
# Work that comes to an end

`Activity.AtOnce P` says that an activity comes to a result with `P` without waiting for anything; it may change the
state.

`Activity.EndsWithin P n` says that an activity leaves the state alone and comes to a result with `P` after `n`
replies at most, whatever they are.  `EndsWithin.bind` adds the counts of work in a row up, and
`EndsWithin.advance` passes on to the party that plays the activity, for which each reply is one less to come.
-/

namespace RunWatch

variable {S T α β : Type}

/-! ## Work that waits for nothing -/

namespace Activity

/-- Work that neither asks for anything nor pauses, and comes to a result of some sort. -/
def AtOnce (P : α → Prop) : Activity S α → Prop
  | finished a => P a
  | asking _ _ => False
  | noting _ next => next.AtOnce P
  | touching _ next => ∀ s, (next s).AtOnce P
  | pausing _ _ => False

variable {P : α → Prop} {Q : β → Prop} {a : Activity S α}

theorem AtOnce.bind (h : a.AtOnce P) {f : α → Activity S β} (hf : ∀ x, P x → (f x).AtOnce Q) :
    (a.bind f).AtOnce Q := by
  induction a with
  | finished a => exact hf a h
  | asking request next => exact h.elim
  | noting entry next ih => exact ih h
  | touching change next ih => exact fun s => ih s (h s)
  | pausing time next => exact h.elim

theorem AtOnce.within (h : a.AtOnce P) (get : T → S) (set : S → T → T) : (a.within get set).AtOnce P := by
  induction a with
  | finished a => exact h
  | asking request next => exact h.elim
  | noting entry next ih => exact ih h
  | touching change next ih => exact fun t => ih (get t) (h (get t))
  | pausing time next => exact h.elim

theorem atOnce_report (entries : List LogEntry) : (report entries : Activity S Unit).AtOnce fun _ => True := by
  induction entries with
  | nil => trivial
  | cons entry entries ih => exact ih

theorem AtOnce.advance (h : a.AtOnce P) (s : S) : ∃ x, P x ∧ (a.advance s).2 = .ended x := by
  induction a generalizing s with
  | finished a => exact ⟨a, h, rfl⟩
  | asking request next => exact h.elim
  | noting entry next ih => exact ih h s
  | touching change next ih => exact ih s (h s) (change s)
  | pausing time next => exact h.elim

end Activity

/-! ## Work that only waits for replies -/

/-- Work that leaves the state alone and comes to a result of some sort after so many replies at most. -/
inductive Activity.EndsWithin (P : α → Prop) : Nat → Activity S α → Prop
  | finished {n : Nat} {a : α} (h : P a) : EndsWithin P n (.finished a)
  | asking {n : Nat} {request : Api.Request} {next : Api.Reply → Activity S α}
      (h : ∀ reply, EndsWithin P n (next reply)) : EndsWithin P (n + 1) (.asking request next)
  | noting {n : Nat} {entry : LogEntry} {next : Activity S α} (h : EndsWithin P n next) :
      EndsWithin P n (.noting entry next)

/-- A party that leaves the state alone and comes to a result of some sort after so many replies at most. -/
inductive Party.EndsWithin (P : α → Prop) : Nat → Party S α → Prop
  | ended {n : Nat} {a : α} (h : P a) : EndsWithin P n (.ended a)
  | awaiting {n : Nat} {request : Api.Request} {next : Api.Reply → Activity S α}
      (h : ∀ reply, (next reply).EndsWithin P n) : EndsWithin P (n + 1) (.awaiting request next)

namespace Activity.EndsWithin

variable {P : α → Prop} {Q : β → Prop} {n m : Nat} {a : Activity S α}

theorem of_le (h : a.EndsWithin P n) (hnm : n ≤ m) : a.EndsWithin P m := by
  induction h generalizing m with
  | finished h => exact .finished h
  | asking _ ih =>
    obtain ⟨k, rfl⟩ : ∃ k, m = k + 1 := ⟨m - 1, by omega⟩
    exact .asking fun reply => ih reply (by omega)
  | noting _ ih => exact .noting (ih hnm)

theorem bind (h : a.EndsWithin P n) {f : α → Activity S β} (hf : ∀ x, P x → (f x).EndsWithin Q m) :
    (a.bind f).EndsWithin Q (n + m) := by
  induction h with
  | finished h => exact (hf _ h).of_le (Nat.le_add_left _ _)
  | @asking n _ _ _ ih =>
    rw [Nat.add_right_comm]
    exact .asking ih
  | noting _ ih => exact .noting ih

theorem report (entries : List LogEntry) {n : Nat} :
    (Activity.report entries : Activity S Unit).EndsWithin (fun _ => True) n := by
  induction entries with
  | nil => exact .finished trivial
  | cons entry entries ih => exact .noting ih

theorem advance (h : a.EndsWithin P n) (s : S) : (a.advance s).1 = s ∧ (a.advance s).2.EndsWithin P n := by
  induction h with
  | finished h => exact ⟨rfl, .ended h⟩
  | asking h => exact ⟨rfl, .awaiting h⟩
  | noting _ ih => exact ih

end Activity.EndsWithin

namespace Party.EndsWithin

variable {P : α → Prop} {n : Nat} {p : Party S α}

/-- Its result, when it is there, is of that sort. -/
theorem result (h : p.EndsWithin P n) {a : α} (ha : p = .ended a) : P a := by
  subst ha
  cases h with
  | ended h => exact h

/-- When no reply is left to come, the result is there. -/
theorem ended_of_zero (h : p.EndsWithin P 0) : ∃ a, p = .ended a := by
  cases h with
  | ended h => exact ⟨_, rfl⟩

/-- It waits for replies and for nothing else. -/
theorem reply_of_onward (h : p.EndsWithin P n) {signal : Signal} {a : Activity S α} (ha : p.onward? signal = some a) :
    ∃ r, signal = .reply r := by
  cases h with
  | ended h => cases signal <;> cases ha
  | awaiting h =>
    cases signal with
    | reply r => exact ⟨r, rfl⟩
    | time => cases ha

/-- A signal that reaches it leaves it with one reply less to come, unless it has ended already. -/
theorem onward (h : p.EndsWithin P n) {signal : Signal} {a : Activity S α} (ha : p.onward? signal = some a) :
    ∃ m, n = m + 1 ∧ a.EndsWithin P m := by
  cases h with
  | ended h => cases signal <;> cases ha
  | awaiting h =>
    cases signal with
    | reply r =>
      obtain rfl := Option.some.inj ha
      exact ⟨_, rfl, h r⟩
    | time => cases ha

end Party.EndsWithin

end RunWatch
