import Mathlib.Data.List.Induction
import RunWatch.Proofs.Ensemble

/-!
# What a party sends

An activity stops at every request, so each time it is played on it sends one request at most.
`Ensemble.requestsOf` lists what the party in one place has sent over a history.  The lemmas here say all that a
single occurrence does to the party in a place: nothing if it brings nothing that the party waits for
(`Ensemble.unreached`), and one step of `Activity.advance` if it does (`Ensemble.reached`).
-/

namespace RunWatch

variable {S α : Type}

/-- The request that a party has sent and waits for a reply to. -/
def Party.request? : Party S α → Option Api.Request
  | awaiting request _ => some request
  | _ => none

namespace Ensemble

/-- The request that an occurrence makes the party in a place send. -/
def asks? (e : Ensemble S α) (i : Nat) : Occurrence S α → Option Api.Request
  | .enters a => if e.parties.length = i then (a.advance e.state).2.request? else none
  | .reaches j signal =>
    if j = i then (e.onward? j signal).bind fun a => (a.advance e.state).2.request? else none
  | .passes _ => none

/-- The requests that the party in a place sends over some occurrences, the first one first. -/
def requestsOf (e : Ensemble S α) (i : Nat) : List (Occurrence S α) → List Api.Request
  | [] => []
  | o :: os => (e.asks? i o).toList ++ (e.step o).requestsOf i os

theorem requestsOf_append (e : Ensemble S α) (i : Nat) (os os' : List (Occurrence S α)) :
    e.requestsOf i (os ++ os') = e.requestsOf i os ++ (e.run os).requestsOf i os' := by
  induction os generalizing e with
  | nil => rfl
  | cons o os ih => rw [List.cons_append, requestsOf, requestsOf, ih, run_cons, List.append_assoc]

theorem requestsOf_concat (e : Ensemble S α) (i : Nat) (os : List (Occurrence S α)) (o : Occurrence S α) :
    e.requestsOf i (os ++ [o]) = e.requestsOf i os ++ ((e.run os).asks? i o).toList := by
  rw [requestsOf_append]
  simp [requestsOf]

theorem requestsOf_map_concat {M : Type} (e : Ensemble S α) (i : Nat) (read : M → Occurrence S α)
    (moves : List M) (m : M) :
    e.requestsOf i ((moves ++ [m]).map read) =
      e.requestsOf i (moves.map read) ++ ((e.run (moves.map read)).asks? i (read m)).toList := by
  rw [List.map_append]
  exact requestsOf_concat e i _ (read m)

/-- Before a party has come it has sent nothing. -/
theorem requestsOf_of_length_le {e : Ensemble S α} {i : Nat} {os : List (Occurrence S α)}
    (h : (e.run os).parties.length ≤ i) : e.requestsOf i os = [] := by
  induction os using List.reverseRecOn with
  | nil => rfl
  | append_singleton os o ih =>
    have hstep := length_step (e.run os) o
    rw [run_append, run_cons, run_nil] at h
    rw [requestsOf_concat, ih (by omega), List.nil_append]
    cases o with
    | enters a =>
      have hne : (e.run os).parties.length ≠ i := by
        have hone : ((e.run os).step (.enters a)).parties.length = (e.run os).parties.length + 1 := hstep
        omega
      simp [asks?, hne]
    | passes change => rfl
    | reaches j signal =>
      by_cases hj : j = i
      · have hnone : (e.run os).onward? j signal = none := by
          rw [onward?, List.getElem?_eq_none (by omega), Option.bind_none]
        simp [asks?, hnone]
      · simp [asks?, hj]

variable {e : Ensemble S α} {i : Nat} {p : Party S α}

/-- What happens elsewhere does not concern a party. -/
theorem elsewhere (hp : e.parties[i]? = some p) {o : Occurrence S α} (ho : ∀ signal, o ≠ .reaches i signal) :
    (e.step o).parties[i]? = some p ∧ e.asks? i o = none := by
  have hi : i < e.parties.length := (List.getElem?_eq_some_iff.mp hp).1
  cases o with
  | enters a =>
    have hne : e.parties.length ≠ i := by omega
    exact ⟨(List.getElem?_append_left hi).trans hp, if_neg hne⟩
  | passes change => exact ⟨hp, rfl⟩
  | reaches j signal =>
    have hj : j ≠ i := fun h => ho signal (by rw [h])
    refine ⟨?_, if_neg hj⟩
    cases hon : e.onward? j signal with
    | none => rw [step_reaches_none hon, hp]
    | some a =>
      rw [step_reaches_some hon]
      exact (List.getElem?_set_ne hj).trans hp

/-- A signal that a party does not wait for does nothing. -/
theorem unmoved (hp : e.parties[i]? = some p) {signal : Signal} (hon : p.onward? signal = none) :
    e.step (.reaches i signal) = e ∧ e.asks? i (.reaches i signal) = none ∧
      e.ending? (.reaches i signal) = none := by
  have hnone : e.onward? i signal = none := by rw [onward?, hp, Option.bind_some, hon]
  exact ⟨step_reaches_none hnone, by simp [asks?, hnone], by rw [ending?, hnone, Option.bind_none]⟩

/-- A party stays as it is and sends nothing unless something reaches it that it waits for. -/
theorem unreached (hp : e.parties[i]? = some p) {o : Occurrence S α}
    (ho : ∀ signal, o = .reaches i signal → p.onward? signal = none) :
    (e.step o).parties[i]? = some p ∧ e.asks? i o = none := by
  by_cases hreaches : ∃ signal, o = .reaches i signal
  · obtain ⟨signal, rfl⟩ := hreaches
    obtain ⟨hstep, hasks, -⟩ := unmoved hp (ho signal rfl)
    exact ⟨by rw [hstep, hp], hasks⟩
  · exact elsewhere hp fun signal hsignal => hreaches ⟨signal, hsignal⟩

/-- A signal that a party waits for plays it on until it waits again or is over. -/
theorem reached (hp : e.parties[i]? = some p) {signal : Signal} {a : Activity S α}
    (hon : p.onward? signal = some a) {s : S} {q : Party S α} (hadvance : a.advance e.state = (s, q)) :
    (e.step (.reaches i signal)).state = s ∧ (e.step (.reaches i signal)).parties[i]? = some q ∧
      e.asks? i (.reaches i signal) = q.request? ∧
      e.ending? (.reaches i signal) = q.result?.map (i, ·) := by
  have hi : i < e.parties.length := (List.getElem?_eq_some_iff.mp hp).1
  have hsome : e.onward? i signal = some a := onward?_eq_some.mpr ⟨p, hp, hon⟩
  refine ⟨?_, ?_, ?_, ?_⟩
  · rw [step_reaches_some hsome, resume, hadvance]
  · rw [step_reaches_some hsome, resume, hadvance]
    exact List.getElem?_set_self hi
  · simp [asks?, hsome, hadvance]
  · rw [ending?, hsome, Option.bind_some, hadvance]

/-- A party that comes takes the next place and is played on until it waits or is over. -/
theorem entered (e : Ensemble S α) {a : Activity S α} {s : S} {q : Party S α}
    (hadvance : a.advance e.state = (s, q)) :
    (e.step (.enters a)).state = s ∧ (e.step (.enters a)).parties[e.parties.length]? = some q ∧
      e.asks? e.parties.length (.enters a) = q.request? := by
  rw [step, hadvance]
  exact ⟨rfl, List.getElem?_concat_length, by simp [asks?, hadvance]⟩

end Ensemble

end RunWatch
