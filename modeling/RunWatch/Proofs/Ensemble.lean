import RunWatch.Activity

/-!
# Ensembles

Activities that overlap in any order.  A rehearsal fixes when every reply arrives; an `Ensemble` leaves it
open.  It is a shared state and the parties that work on it, each of them played on to a point where it
waits.  What happens next is an `Occurrence`: another activity begins, a reply or the end of a pause reaches
a party, or the state is changed in passing.  A statement about every list of occurrences is a statement
about every order of issues and replies.

`Activity.advance` is the only place where an activity touches the state, so what holds of every party is
kept by a run as soon as `advance` keeps it (`Ensemble.step_stands`, `Ensemble.step_all`).
-/

namespace RunWatch

/-- What can make a waiting party go on. -/
inductive Signal where
  | reply (r : Api.Reply)
  /-- Its pause is over. -/
  | time

/-- What others see of a party. -/
inductive Sight (α : Type) where
  | asks (request : Api.Request)
  | rests
  | shows (a : α)

/-- A party to an ensemble: what it waits for, or what its work has come to. -/
inductive Party (S α : Type) where
  /-- It has sent a request, and the reply decides how it goes on. -/
  | awaiting (request : Api.Request) (next : Api.Reply → Activity S α)
  /-- It goes on after a pause. -/
  | resting (next : Activity S α)
  | ended (a : α)

namespace Party

variable {S α : Type}

/-- What others see of a party: the request it has sent, or its result. -/
def sight : Party S α → Sight α
  | awaiting request _ => .asks request
  | resting _ => .rests
  | ended a => .shows a

/-- What a party has come to. -/
def result? : Party S α → Option α
  | ended a => some a
  | _ => none

/-- How a party goes on when a signal reaches it, if it waits for such a one. -/
def onward? : Party S α → Signal → Option (Activity S α)
  | awaiting _ next, .reply r => some (next r)
  | resting next, .time => some next
  | _, _ => none

theorem result?_eq_some {p : Party S α} {a : α} : p.result? = some a ↔ p = .ended a := by
  cases p <;> simp [result?]

/-- A party that goes on with an activity of some sort, whatever reaches it. -/
def Continues (P : Activity S α → Prop) (p : Party S α) : Prop :=
  ∀ signal a, p.onward? signal = some a → P a

theorem Continues.mono {P Q : Activity S α → Prop} (h : ∀ a, P a → Q a) {p : Party S α}
    (hp : p.Continues P) : p.Continues Q :=
  fun signal a ha => h a (hp signal a ha)

theorem continues_awaiting {P : Activity S α → Prop} {request : Api.Request}
    {next : Api.Reply → Activity S α} (h : ∀ r, P (next r)) : (awaiting request next).Continues P := by
  intro signal a ha
  cases signal with
  | reply r =>
    obtain rfl := Option.some.inj ha
    exact h r
  | time => cases ha

theorem continues_resting {P : Activity S α → Prop} {next : Activity S α} (h : P next) :
    (resting next).Continues P := by
  intro signal a ha
  cases signal with
  | reply r => cases ha
  | time =>
    obtain rfl := Option.some.inj ha
    exact h

theorem continues_ended (P : Activity S α → Prop) (a : α) : (ended a : Party S α).Continues P := by
  intro signal b hb
  cases signal <;> cases hb

end Party

theorem Activity.bind_assoc {S α β γ : Type} (a : Activity S α) (f : α → Activity S β) (g : β → Activity S γ) :
    (a.bind f).bind g = a.bind fun x => (f x).bind g := by
  induction a with
  | finished a => rfl
  | asking request next ih => exact congrArg (asking request) (funext ih)
  | noting entry next ih => exact congrArg (noting entry) ih
  | touching change next ih => exact congrArg (touching change) (funext ih)
  | pausing time next ih => exact congrArg (pausing time) ih

/-- Plays an activity until it waits or is over. -/
def Activity.advance {S α : Type} : Activity S α → S → S × Party S α
  | finished a, s => (s, .ended a)
  | asking request next, s => (s, .awaiting request next)
  | noting _ next, s => next.advance s
  | touching change next, s => (next s).advance (change s)
  | pausing _ next, s => (s, .resting next)

/-- What is left in the log makes no difference to what follows. -/
theorem Activity.advance_report {S α : Type} (entries : List LogEntry) (f : Unit → Activity S α) (s : S) :
    ((Activity.report entries).bind f).advance s = (f ()).advance s := by
  induction entries with
  | nil => rfl
  | cons entry entries ih => exact ih

/-- A state and the parties that work on it, in the order in which they came. -/
structure Ensemble (S α : Type) where
  state : S
  parties : List (Party S α)

/-- What can happen in an ensemble. -/
inductive Occurrence (S α : Type) where
  /-- Another party begins. -/
  | enters (a : Activity S α)
  /-- A signal reaches a party. -/
  | reaches (i : Nat) (signal : Signal)
  /-- The state is changed by someone who does not wait. -/
  | passes (change : S → S)

/-- Whether an occurrence brings another party. -/
def Occurrence.isEntry {S α : Type} : Occurrence S α → Bool
  | .enters _ => true
  | _ => false

namespace Ensemble

variable {S α : Type}

/-- A state that nobody works on. -/
def alone (s : S) : Ensemble S α := ⟨s, []⟩

/-- A party goes on. -/
def resume (e : Ensemble S α) (i : Nat) (a : Activity S α) : Ensemble S α :=
  ⟨(a.advance e.state).1, e.parties.set i (a.advance e.state).2⟩

/-- How the party in a place goes on when a signal reaches it. -/
def onward? (e : Ensemble S α) (i : Nat) (signal : Signal) : Option (Activity S α) :=
  e.parties[i]?.bind fun p => p.onward? signal

/-- The ensemble after an occurrence.  A signal that nobody waits for changes nothing. -/
def step (e : Ensemble S α) : Occurrence S α → Ensemble S α
  | .enters a => ⟨(a.advance e.state).1, e.parties ++ [(a.advance e.state).2]⟩
  | .reaches i signal => (e.onward? i signal).elim e (e.resume i)
  | .passes change => { e with state := change e.state }

/-- The ensemble after some occurrences. -/
def run (e : Ensemble S α) (os : List (Occurrence S α)) : Ensemble S α :=
  os.foldl step e

/-- The party that an occurrence brings to its end, and what it has come to. -/
def ending? (e : Ensemble S α) : Occurrence S α → Option (Nat × α)
  | .enters a => (a.advance e.state).2.result?.map (e.parties.length, ·)
  | .reaches i signal => (e.onward? i signal).bind fun a => (a.advance e.state).2.result?.map (i, ·)
  | .passes _ => none

/-- What the parties come to over some occurrences, the first result first. -/
def endings (e : Ensemble S α) : List (Occurrence S α) → List (Nat × α)
  | [] => []
  | o :: os => (e.ending? o).toList ++ (e.step o).endings os

@[simp] theorem run_nil (e : Ensemble S α) : e.run [] = e := rfl

@[simp] theorem run_cons (e : Ensemble S α) (o : Occurrence S α) (os : List (Occurrence S α)) :
    e.run (o :: os) = (e.step o).run os := rfl

theorem run_append (e : Ensemble S α) (os os' : List (Occurrence S α)) :
    e.run (os ++ os') = (e.run os).run os' :=
  List.foldl_append

/-- A further move is a further step, however moves are read as occurrences. -/
theorem run_map_concat {M : Type} (e : Ensemble S α) (read : M → Occurrence S α) (moves : List M) (m : M) :
    e.run ((moves ++ [m]).map read) = (e.run (moves.map read)).step (read m) := by
  rw [List.map_append, run_append]
  rfl

theorem endings_append (e : Ensemble S α) (os os' : List (Occurrence S α)) :
    e.endings (os ++ os') = e.endings os ++ (e.run os).endings os' := by
  induction os generalizing e with
  | nil => rfl
  | cons o os ih => rw [List.cons_append, endings, endings, ih, run_cons, List.append_assoc]

/-! ## What a signal does -/

theorem step_reaches_none {e : Ensemble S α} {i : Nat} {signal : Signal} (h : e.onward? i signal = none) :
    e.step (.reaches i signal) = e := by
  rw [step, h, Option.elim_none]

theorem step_reaches_some {e : Ensemble S α} {i : Nat} {signal : Signal} {a : Activity S α}
    (h : e.onward? i signal = some a) : e.step (.reaches i signal) = e.resume i a := by
  rw [step, h, Option.elim_some]

theorem onward?_eq_some {e : Ensemble S α} {i : Nat} {signal : Signal} {a : Activity S α} :
    e.onward? i signal = some a ↔ ∃ p, e.parties[i]? = some p ∧ p.onward? signal = some a :=
  Option.bind_eq_some_iff

theorem ending?_reaches {e : Ensemble S α} {i j : Nat} {signal : Signal} {r : α} :
    e.ending? (.reaches i signal) = some (j, r) ↔
      j = i ∧ ∃ a, e.onward? i signal = some a ∧ (a.advance e.state).2 = .ended r := by
  rw [ending?, Option.bind_eq_some_iff]
  constructor
  · rintro ⟨a, ha, hr⟩
    obtain ⟨r', hr', hj⟩ := Option.map_eq_some_iff.mp hr
    obtain ⟨rfl, rfl⟩ := Prod.mk.inj hj
    exact ⟨rfl, a, ha, Party.result?_eq_some.mp hr'⟩
  · rintro ⟨rfl, a, ha, hr⟩
    exact ⟨a, ha, Option.map_eq_some_iff.mpr ⟨r, Party.result?_eq_some.mpr hr, rfl⟩⟩

@[simp] theorem length_reaches (e : Ensemble S α) (i : Nat) (signal : Signal) :
    (e.step (.reaches i signal)).parties.length = e.parties.length := by
  cases h : e.onward? i signal with
  | none => rw [step_reaches_none h]
  | some a => rw [step_reaches_some h, resume, List.length_set]

theorem length_step (e : Ensemble S α) (o : Occurrence S α) :
    (e.step o).parties.length = e.parties.length + [o].countP Occurrence.isEntry := by
  cases o with
  | enters a => exact List.length_append
  | passes change => rfl
  | reaches i signal => exact length_reaches e i signal

/-- There are as many parties as have come. -/
theorem length_run (e : Ensemble S α) (os : List (Occurrence S α)) :
    (e.run os).parties.length = e.parties.length + os.countP Occurrence.isEntry := by
  induction os generalizing e with
  | nil => rfl
  | cons o os ih =>
    rw [run_cons, ih, length_step, Nat.add_assoc, ← List.countP_append]
    rfl

theorem length_run_alone {M : Type} (s : S) (read : M → Occurrence S α) (moves : List M) :
    ((alone s).run (moves.map read)).parties.length = moves.countP fun m => (read m).isEntry := by
  rw [length_run, List.countP_map]
  exact Nat.zero_add _

/-! ## What a step does to the parties -/

/-- A sort of activities that stays the same while they are played. -/
def Steady (P : Activity S α → Prop) : Prop :=
  ∀ a, P a → ∀ s, (a.advance s).2.Continues P

/-- A party of a steady sort stays in its place and of its sort, whatever happens. -/
theorem step_stands {P : Activity S α → Prop} (hP : Steady P) {e : Ensemble S α} {i : Nat}
    (h : ∃ p, e.parties[i]? = some p ∧ p.Continues P) (o : Occurrence S α) :
    ∃ p, (e.step o).parties[i]? = some p ∧ p.Continues P := by
  obtain ⟨p, hp, hc⟩ := h
  have hi : i < e.parties.length := (List.getElem?_eq_some_iff.mp hp).1
  cases o with
  | enters a => exact ⟨p, (List.getElem?_append_left hi).trans hp, hc⟩
  | passes change => exact ⟨p, hp, hc⟩
  | reaches j signal =>
    cases hon : e.onward? j signal with
    | none => exact ⟨p, by rw [step_reaches_none hon, hp], hc⟩
    | some a =>
      rw [step_reaches_some hon, resume]
      -- A party that goes on is replaced in its own place only.
      by_cases hj : j = i
      · subst hj
        obtain ⟨q, hq, ha⟩ := onward?_eq_some.mp hon
        obtain rfl := Option.some.inj (hp.symm.trans hq)
        exact ⟨_, List.getElem?_set_self hi, hP a (hc signal a ha) e.state⟩
      · exact ⟨p, (List.getElem?_set_ne hj).trans hp, hc⟩

/-- Parties of a steady sort stay so if those that join them are of that sort. -/
theorem step_all {P : Activity S α → Prop} (hP : Steady P) {e : Ensemble S α}
    (h : ∀ p ∈ e.parties, p.Continues P) (o : Occurrence S α)
    (ho : ∀ a, o = .enters a → (a.advance e.state).2.Continues P) :
    ∀ p ∈ (e.step o).parties, p.Continues P := by
  cases o with
  | enters a =>
    intro p hp
    obtain hp | hp := List.mem_append.mp hp
    · exact h p hp
    · rw [List.mem_singleton.mp hp]
      exact ho a rfl
  | passes change => exact h
  | reaches j signal =>
    cases hon : e.onward? j signal with
    | none =>
      rw [step_reaches_none hon]
      exact h
    | some a =>
      rw [step_reaches_some hon]
      intro p hp
      obtain hp | rfl := List.mem_or_eq_of_mem_set hp
      · exact h p hp
      · obtain ⟨q, hq, ha⟩ := onward?_eq_some.mp hon
        exact hP a (h q (List.mem_of_getElem? hq) signal a ha) e.state

/-- A party that has ended stays as it is. -/
theorem step_ended {e : Ensemble S α} {i : Nat} {r : α} (h : e.parties[i]? = some (.ended r))
    (o : Occurrence S α) : (e.step o).parties[i]? = some (.ended r) := by
  have hi : i < e.parties.length := (List.getElem?_eq_some_iff.mp h).1
  cases o with
  | enters b => exact (List.getElem?_append_left hi).trans h
  | passes change => exact h
  | reaches j signal =>
    cases hon : e.onward? j signal with
    | none => rw [step_reaches_none hon, h]
    | some a =>
      have hj : j ≠ i := by
        rintro rfl
        obtain ⟨q, hq, ha⟩ := onward?_eq_some.mp hon
        obtain rfl := Option.some.inj (h.symm.trans hq)
        exact Party.continues_ended (fun _ => False) r signal a ha
      rw [step_reaches_some hon]
      exact (List.getElem?_set_ne hj).trans h

theorem run_ended {e : Ensemble S α} {i : Nat} {r : α} (h : e.parties[i]? = some (.ended r))
    (os : List (Occurrence S α)) : (e.run os).parties[i]? = some (.ended r) := by
  induction os generalizing e with
  | nil => exact h
  | cons o os ih => exact ih (step_ended h o)

/-- A party that a signal brings to its end has ended from then on. -/
theorem parties_of_ending? {e : Ensemble S α} {i j : Nat} {signal : Signal} {r : α}
    (h : e.ending? (.reaches i signal) = some (j, r)) :
    (e.step (.reaches i signal)).parties[j]? = some (.ended r) := by
  obtain ⟨rfl, a, ha, hr⟩ := ending?_reaches.mp h
  obtain ⟨p, hp, -⟩ := onward?_eq_some.mp ha
  have hj : j < e.parties.length := (List.getElem?_eq_some_iff.mp hp).1
  rw [step_reaches_some ha, resume, hr]
  exact List.getElem?_set_self hj

end Ensemble

end RunWatch
