import RunWatch.Proofs.Ensemble.Ending

/-!
# A party on its own

With the state to itself an activity is a matter of the replies that come for it.  `Activity.asked` lists the requests
that it sends, and `Activity.played` is the state that it leaves together with the party that it has become, up to a
pause; `Ensemble.run_toOnly` says so of an ensemble with no other party, and `Ensemble.step_only` takes such a party
over any single signal.

Work that only waits for replies (`EndsWithin`) comes to its result exactly when it has had a reply to every request
that it has sent (`Activity.EndsWithin.played`).
-/

namespace RunWatch

variable {S α : Type}

namespace Activity

/-- The requests that an activity sends when some replies come and nobody else changes the state, the first one
first. -/
def asked : Activity S α → S → List Api.Reply → List Api.Request
  | finished _, _, _ => []
  | asking request _, _, [] => [request]
  | asking request next, s, r :: rs => request :: (next r).asked s rs
  | noting _ next, s, rs => next.asked s rs
  | touching change next, s, rs => (next s).asked (change s) rs
  | pausing _ _, _, _ => []

/-- The state that an activity leaves when some replies come, and what it waits for then or has come to. -/
def played : Activity S α → S → List Api.Reply → S × Party S α
  | finished a, s, _ => (s, .ended a)
  | asking request next, s, [] => (s, .awaiting request next)
  | asking _ next, s, r :: rs => (next r).played s rs
  | noting _ next, s, rs => next.played s rs
  | touching change next, s, rs => (next s).played (change s) rs
  | pausing _ next, s, _ => (s, .resting next)

theorem asked_report (entries : List LogEntry) (f : Unit → Activity S α) (s : S) (rs : List Api.Reply) :
    ((report entries).bind f).asked s rs = (f ()).asked s rs := by
  induction entries with
  | nil => rfl
  | cons entry entries ih => exact ih

/-- Work that only waits for replies leaves the state alone.  It is over exactly when no request is left without a
reply. -/
theorem EndsWithin.played {P : α → Prop} {n : Nat} {a : Activity S α} (h : a.EndsWithin P n) (s : S)
    (rs : List Api.Reply) :
    (a.played s rs).1 = s ∧ (∀ o, (a.played s rs).2 = .ended o → P o) ∧
      ((∃ o, (a.played s rs).2 = .ended o) ↔ (a.asked s rs).length ≤ rs.length) := by
  induction h generalizing rs with
  | finished h =>
    refine ⟨rfl, fun o ho => ?_, iff_of_true ⟨_, rfl⟩ (Nat.zero_le _)⟩
    obtain rfl := Party.ended.inj ho
    exact h
  | asking _ ih =>
    cases rs with
    | nil => exact ⟨rfl, nofun, iff_of_false nofun (Nat.not_succ_le_zero 0)⟩
    | cons r rs =>
      obtain ⟨hstate, hresult, hended⟩ := ih r rs
      exact ⟨hstate, hresult, hended.trans Nat.succ_le_succ_iff.symm⟩
  | noting _ ih => exact ih rs

end Activity

namespace Ensemble

/-- Replies as they happen to the only party there is. -/
def toOnly (rs : List Api.Reply) : List (Occurrence S α) :=
  rs.map fun r => .reaches 0 (.reply r)

/-- A party that does not wait for a reply stays as it is. -/
theorem run_toOnly_of_idle {s : S} {p : Party S α} (h : ∀ r, p.onward? (.reply r) = none) (rs : List Api.Reply) :
    run ⟨s, [p]⟩ (toOnly rs) = ⟨s, [p]⟩ ∧ requestsOf ⟨s, [p]⟩ 0 (toOnly rs) = [] := by
  induction rs with
  | nil => exact ⟨rfl, rfl⟩
  | cons r rs ih =>
    obtain ⟨hstep, hasks, -⟩ := unmoved (e := ⟨s, [p]⟩) (i := 0) rfl (h r)
    have htail : toOnly (S := S) (α := α) (r :: rs) = .reaches 0 (.reply r) :: toOnly rs := rfl
    rw [htail, run_cons, requestsOf, hstep, hasks]
    exact ih

theorem run_toOnly (a : Activity S α) (s : S) (rs : List Api.Reply) :
    let e : Ensemble S α := ⟨(a.advance s).1, [(a.advance s).2]⟩
    e.run (toOnly rs) = ⟨(a.played s rs).1, [(a.played s rs).2]⟩ ∧
      (a.advance s).2.request?.toList ++ e.requestsOf 0 (toOnly rs) = a.asked s rs := by
  -- Only a request uses up a reply; a party that does not wait for one lets them all pass.
  induction a generalizing s rs with
  | finished a =>
    obtain ⟨hrun, hasked⟩ := run_toOnly_of_idle (p := .ended a) (s := s) (fun _ => rfl) rs
    exact ⟨hrun, hasked⟩
  | asking request next ih =>
    cases rs with
    | nil => exact ⟨rfl, rfl⟩
    | cons r rs =>
      obtain ⟨hrun, hasked⟩ := ih r s rs
      exact ⟨hrun, congrArg (request :: ·) hasked⟩
  | noting entry next ih => exact ih s rs
  | touching change next ih => exact ih s (change s) rs
  | pausing time next ih =>
    obtain ⟨hrun, hasked⟩ := run_toOnly_of_idle (p := .resting next) (s := s) (fun _ => rfl) rs
    exact ⟨hrun, hasked⟩

/-- A signal that the only party waits for plays it on. -/
theorem step_only {s : S} {p : Party S α} {signal : Signal} {a : Activity S α} (hon : p.onward? signal = some a) :
    step ⟨s, [p]⟩ (.reaches 0 signal) = ⟨(a.advance s).1, [(a.advance s).2]⟩ ∧
      asks? ⟨s, [p]⟩ 0 (.reaches 0 signal) = (a.advance s).2.request? := by
  have hsome : (⟨s, [p]⟩ : Ensemble S α).onward? 0 signal = some a := hon
  refine ⟨?_, ?_⟩
  · rw [step_reaches_some hsome]
    rfl
  · rw [asks?, if_pos rfl, hsome]
    rfl

end Ensemble

end RunWatch
