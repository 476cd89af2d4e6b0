import RunWatch.Proofs.Ensemble

/-!
# Parties that time has passed by

`Activity.Each P` says that every change that an activity makes is of the sort `P`, however the state comes
to stand in between, so that what these changes keep an ensemble keeps (`Ensemble.keeps_step`).  With it an
ensemble can outlive its parties: if the state only ever moves on, and every party that joins makes no
difference any more once the state has moved past the point where it joined, then at each moment no party
makes a difference past that moment (`Ensemble.Outdated.run`).
-/

namespace RunWatch

variable {S T α β : Type}

namespace Activity

/-- Every change that an activity makes is of some sort. -/
def Each (P : (S → S) → Prop) : Activity S α → Prop
  | finished _ => True
  | asking _ next => ∀ reply, (next reply).Each P
  | noting _ next => next.Each P
  | touching change next => P change ∧ ∀ s, (next s).Each P
  | pausing _ next => next.Each P

theorem Each.mono {P Q : (S → S) → Prop} (h : ∀ change, P change → Q change) {a : Activity S α}
    (ha : a.Each P) : a.Each Q := by
  induction a with
  | finished a => trivial
  | asking request next ih => exact fun reply => ih reply (ha reply)
  | noting entry next ih => exact ih ha
  | touching change next ih => exact ⟨h change ha.1, fun s => ih s (ha.2 s)⟩
  | pausing time next ih => exact ih ha

theorem each_true (a : Activity S α) : a.Each fun _ => True := by
  induction a with
  | finished a => trivial
  | asking request next ih => exact ih
  | noting entry next ih => exact ih
  | touching change next ih => exact ⟨trivial, ih⟩
  | pausing time next ih => exact ih

theorem Each.bind {P : (S → S) → Prop} {a : Activity S α} (ha : a.Each P) {f : α → Activity S β}
    (hf : ∀ x, (f x).Each P) : (a.bind f).Each P := by
  induction a with
  | finished a => exact hf a
  | asking request next ih => exact fun reply => ih reply (ha reply)
  | noting entry next ih => exact ih ha
  | touching change next ih => exact ⟨ha.1, fun s => ih s (ha.2 s)⟩
  | pausing time next ih => exact ih ha

/-- A conversation changes nothing. -/
theorem each_ofDialogue (P : (S → S) → Prop) (d : Api.Dialogue α) : (ofDialogue d).Each P := by
  induction d with
  | answer a => trivial
  | ask request next ih => exact ih
  | note entry rest ih => exact ih

theorem each_report (P : (S → S) → Prop) (entries : List LogEntry) : (report entries).Each P := by
  induction entries with
  | nil => trivial
  | cons entry entries ih => exact ih

theorem Each.within {P : (S → S) → Prop} {Q : (T → T) → Prop} {get : T → S} {set : S → T → T}
    (h : ∀ change, P change → Q fun t => set (change (get t)) t) {a : Activity S α} (ha : a.Each P) :
    (a.within get set).Each Q := by
  induction a with
  | finished a => trivial
  | asking request next ih => exact fun reply => ih reply (ha reply)
  | noting entry next ih => exact ih ha
  | touching change next ih => exact ⟨h change ha.1, fun t => ih (get t) (ha.2 (get t))⟩
  | pausing time next ih => exact ih ha

theorem each_steady (P : (S → S) → Prop) : Ensemble.Steady (α := α) (Each P) := by
  intro a ha
  induction a with
  | finished a => exact fun s => Party.continues_ended _ a
  | asking request next => exact fun s => Party.continues_awaiting ha
  | noting entry next ih => exact ih ha
  | touching change next ih => exact fun s => ih s (ha.2 s) (change s)
  | pausing time next => exact fun s => Party.continues_resting ha

/-- What all its changes keep, an activity keeps. -/
theorem Each.advance {P : (S → S) → Prop} {inv : S → Prop} (h : ∀ change, P change → ∀ s, inv s → inv (change s))
    {a : Activity S α} (ha : a.Each P) {s : S} (hs : inv s) : inv (a.advance s).1 := by
  induction a generalizing s with
  | finished a => exact hs
  | asking request next => exact hs
  | noting entry next ih => exact ih ha hs
  | touching change next ih => exact ih s (ha.2 s) (h change ha.1 s hs)
  | pausing time next => exact hs

end Activity

/-! ## What every change keeps -/

/-- An occurrence that, if it brings a party, brings one whose changes are of some sort. -/
def Occurrence.Brings (P : (S → S) → Prop) : Occurrence S α → Prop
  | .enters a => a.Each P
  | _ => True

/-- An occurrence whose changes are of some sort, those of the party that it brings included. -/
def Occurrence.Makes (P : (S → S) → Prop) : Occurrence S α → Prop
  | .enters a => a.Each P
  | .reaches _ _ => True
  | .passes change => P change

theorem Occurrence.Makes.brings {P : (S → S) → Prop} {o : Occurrence S α} (ho : o.Makes P) : o.Brings P := by
  cases o with
  | enters a => exact ho
  | _ => trivial

theorem Occurrence.Makes.mono {P Q : (S → S) → Prop} (h : ∀ change, P change → Q change) {o : Occurrence S α}
    (ho : o.Makes P) : o.Makes Q := by
  cases o with
  | enters a => exact Activity.Each.mono h ho
  | reaches i signal => trivial
  | passes change => exact h change ho

/-- The same occurrence as part of a larger state. -/
def Occurrence.within (get : T → S) (set : S → T → T) : Occurrence S α → Occurrence T α
  | .enters a => .enters (a.within get set)
  | .reaches i signal => .reaches i signal
  | .passes change => .passes fun t => set (change (get t)) t

theorem Occurrence.Makes.within {P : (S → S) → Prop} {Q : (T → T) → Prop} {get : T → S} {set : S → T → T}
    (h : ∀ change, P change → Q fun t => set (change (get t)) t) {o : Occurrence S α} (ho : o.Makes P) :
    (o.within get set).Makes Q := by
  cases o with
  | enters a => exact Activity.Each.within h ho
  | reaches i signal => trivial
  | passes change => exact h change ho

namespace Ensemble

variable {P : (S → S) → Prop} {e : Ensemble S α} {o : Occurrence S α}

theorem each_step (he : ∀ p ∈ e.parties, p.Continues (Activity.Each P)) (ho : o.Brings P) :
    ∀ p ∈ (e.step o).parties, p.Continues (Activity.Each P) := by
  refine step_all (Activity.each_steady P) he o fun a ha => ?_
  subst ha
  exact Activity.each_steady P a ho e.state

theorem each_run {os : List (Occurrence S α)} (he : ∀ p ∈ e.parties, p.Continues (Activity.Each P))
    (hos : ∀ o ∈ os, o.Brings P) : ∀ p ∈ (e.run os).parties, p.Continues (Activity.Each P) := by
  induction os generalizing e with
  | nil => exact he
  | cons o os ih =>
    exact ih (each_step he (hos o List.mem_cons_self)) fun o' ho' => hos o' (List.mem_cons_of_mem o ho')

/-- What all changes of the parties keep, and each change in passing, every occurrence keeps. -/
theorem keeps_step {inv : S → Prop} (h : ∀ change, P change → ∀ s, inv s → inv (change s))
    (he : ∀ p ∈ e.parties, p.Continues (Activity.Each P)) (ho : o.Brings P)
    (hpasses : ∀ change, o = .passes change → inv (change e.state)) (hs : inv e.state) :
    inv (e.step o).state := by
  cases o with
  | enters a => exact ho.advance h hs
  | passes change => exact hpasses change rfl
  | reaches i signal =>
    cases hon : e.onward? i signal with
    | none =>
      rw [step_reaches_none hon]
      exact hs
    | some a =>
      obtain ⟨p, hp, ha⟩ := onward?_eq_some.mp hon
      rw [step_reaches_some hon]
      exact (he p (List.mem_of_getElem? hp) signal a ha).advance h hs

theorem keeps_step_of_makes {inv : S → Prop} (h : ∀ change, P change → ∀ s, inv s → inv (change s))
    (he : ∀ p ∈ e.parties, p.Continues (Activity.Each P)) (ho : o.Makes P) (hs : inv e.state) :
    inv (e.step o).state := by
  refine keeps_step h he ho.brings (fun change hchange => ?_) hs
  subst hchange
  exact h change ho e.state hs

theorem keeps_run_of_makes {inv : S → Prop} (h : ∀ change, P change → ∀ s, inv s → inv (change s))
    {os : List (Occurrence S α)} (he : ∀ p ∈ e.parties, p.Continues (Activity.Each P)) (hos : ∀ o ∈ os, o.Makes P)
    (hs : inv e.state) : inv (e.run os).state := by
  induction os generalizing e with
  | nil => exact hs
  | cons o os ih =>
    have ho := hos o List.mem_cons_self
    exact ih (each_step he ho.brings) (fun o' ho' => hos o' (List.mem_cons_of_mem o ho'))
      (keeps_step_of_makes h he ho hs)

end Ensemble

/-! ## Changes in time -/

/-- How a state moves on: `le` may hold between a state and what it changes to, and `lt` says that so much
has happened in between that the first is past. -/
structure Passage (S : Type) where
  le : S → S → Prop
  lt : S → S → Prop
  refl : ∀ s, le s s
  trans : ∀ {s t u}, le s t → le t u → le s u
  lt_of_le_of_lt : ∀ {s t u}, le s t → lt t u → lt s u

namespace Passage

/-- A change that moves every state on, but leaves those alone for which `s` is past. -/
def Outdates (time : Passage S) (s : S) (change : S → S) : Prop :=
  (∀ t, time.le t (change t)) ∧ ∀ t, time.lt s t → change t = t

theorem Outdates.of_le {time : Passage S} {s t : S} (h : time.le s t) {change : S → S}
    (hs : time.Outdates s change) : time.Outdates t change :=
  ⟨hs.1, fun u hu => hs.2 u (time.lt_of_le_of_lt h hu)⟩

end Passage

/-- Work that makes no difference past a state still moves that state on, and what it leaves to do makes no
difference past the state that it leads to. -/
theorem Activity.Each.passes_on {time : Passage S} {a : Activity S α} {s : S}
    (h : a.Each (time.Outdates s)) :
    time.le s (a.advance s).1 ∧
      (a.advance s).2.Continues (Activity.Each (time.Outdates (a.advance s).1)) := by
  have hle : time.le s (a.advance s).1 :=
    h.advance (fun change hchange t ht => time.trans ht (hchange.1 t)) (time.refl s)
  exact ⟨hle, (each_steady _ a h s).mono fun b hb => hb.mono fun change hchange => hchange.of_le hle⟩

/-- An occurrence that moves the state on; a party that joins makes no difference once its time is past. -/
def Occurrence.Passing (time : Passage S) : Occurrence S α → Prop
  | .enters a => ∀ s, time.le s (a.advance s).1 ∧
      (a.advance s).2.Continues (Activity.Each (time.Outdates (a.advance s).1))
  | .reaches _ _ => True
  | .passes change => ∀ s, time.le s (change s)

/-- A party whose first change moves the state on, and whose work from there makes no difference later. -/
theorem Occurrence.passing_transact {time : Passage S} {f : S → S × β} {g : β → Activity S α}
    (h : ∀ s, time.le s (f s).1 ∧ (g (f s).2).Each (time.Outdates (f s).1)) :
    Occurrence.Passing time (.enters ((Activity.transact f).bind g)) := by
  intro s
  obtain ⟨hle, heach⟩ := h s
  obtain ⟨hle', hcontinues⟩ := heach.passes_on
  exact ⟨time.trans hle hle', hcontinues⟩

namespace Ensemble

/-- Parties that make no difference once the present is past. -/
def Outdated (time : Passage S) (e : Ensemble S α) : Prop :=
  ∀ p ∈ e.parties, p.Continues (Activity.Each (time.Outdates e.state))

theorem outdated_alone (time : Passage S) (s : S) : Outdated (α := α) time (alone s) :=
  fun _ hp => absurd hp List.not_mem_nil

variable {time : Passage S} {e : Ensemble S α}

theorem Outdated.le_step (h : e.Outdated time) {o : Occurrence S α} (ho : o.Passing time) :
    time.le e.state (e.step o).state := by
  cases o with
  | enters a => exact (ho e.state).1
  | passes change => exact ho e.state
  | reaches i signal =>
    cases hon : e.onward? i signal with
    | none =>
      rw [step_reaches_none hon]
      exact time.refl e.state
    | some a =>
      obtain ⟨p, hp, ha⟩ := onward?_eq_some.mp hon
      rw [step_reaches_some hon]
      have heach := h p (List.mem_of_getElem? hp) signal a ha
      exact heach.advance (fun change hchange s hs => time.trans hs (hchange.1 s)) (time.refl e.state)

theorem Outdated.step (h : e.Outdated time) {o : Occurrence S α} (ho : o.Passing time) :
    (e.step o).Outdated time := by
  have hle := h.le_step ho
  refine step_all (Activity.each_steady _) (fun p hp => ?_) o fun a ha => ?_
  · exact (h p hp).mono fun b hb => hb.mono fun change hchange => hchange.of_le hle
  · subst ha
    exact (ho e.state).2

/-- However an ensemble moves on, none of its parties makes a difference past the present. -/
theorem Outdated.run (h : e.Outdated time) {os : List (Occurrence S α)} (hos : ∀ o ∈ os, o.Passing time) :
    time.le e.state (e.run os).state ∧ (e.run os).Outdated time := by
  induction os generalizing e with
  | nil => exact ⟨time.refl e.state, h⟩
  | cons o os ih =>
    have ho := hos o List.mem_cons_self
    obtain ⟨hle, hrun⟩ := ih (h.step ho) fun o' ho' => hos o' (List.mem_cons_of_mem o ho')
    exact ⟨time.trans (h.le_step ho) hle, hrun⟩

end Ensemble

end RunWatch
