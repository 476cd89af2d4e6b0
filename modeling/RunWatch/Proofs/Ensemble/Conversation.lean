import RunWatch.Proofs.Ensemble.Requests

/-!
# Conversations over a history

What a party that holds a dialogue has come to is a matter of the replies that have reached it, whatever else
has happened.  `Dialogue.after` is what is left of a dialogue after some replies, `Dialogue.asked` what it has sent by
then, and `Ensemble.repliesTo` lists the replies of a history for the party in one place; `Ensemble.converses_run` puts
the first and the last together.

A party that has ended neither changes nor asks for anything again (`Ensemble.requestsOf_of_ended`).
-/

namespace RunWatch

variable {S α β : Type}

/-! ## What is left of a dialogue -/

namespace Api.Dialogue

/-- What is left of a dialogue after some replies, up to the next request or the answer.  Replies that come
after the answer do not count. -/
def after : Dialogue β → List Reply → Dialogue β
  | answer b, _ => answer b
  | ask request next, [] => ask request next
  | ask _ next, r :: rs => (next r).after rs
  | note _ next, rs => next.after rs

theorem after_append (d : Dialogue β) (rs rs' : List Reply) : d.after (rs ++ rs') = (d.after rs).after rs' := by
  induction d generalizing rs with
  | answer b => rfl
  | ask request next ih =>
    cases rs with
    | nil => rfl
    | cons r rs => exact ih r rs
  | note entry next ih => exact ih rs

/-- After some replies a dialogue waits for another one or is over. -/
theorem after_cases (d : Dialogue β) (rs : List Reply) :
    (∃ request, ∃ next : Reply → Dialogue β, d.after rs = ask request next) ∨
      ∃ b, d.after rs = answer b := by
  induction d generalizing rs with
  | answer b => exact .inr ⟨b, rfl⟩
  | ask request next ih =>
    cases rs with
    | nil => exact .inl ⟨request, next, rfl⟩
    | cons r rs => exact ih r rs
  | note entry next ih => exact ih rs

/-- The requests that a dialogue sends when some replies come, the first one first. -/
def asked : Dialogue β → List Reply → List Request
  | answer _, _ => []
  | ask request _, [] => [request]
  | ask request next, r :: rs => request :: (next r).asked rs
  | note _ next, rs => next.asked rs

end Api.Dialogue

/-- What a dialogue notes before its next request makes no difference to the state or to what the party
waits for. -/
theorem Activity.advance_ofDialogue (d : Api.Dialogue β) (f : β → Activity S α) (s : S) :
    ((ofDialogue d).bind f).advance s = ((ofDialogue (d.after [])).bind f).advance s := by
  induction d with
  | answer b => rfl
  | ask request next => rfl
  | note entry next ih => exact ih

/-- A party that holds a dialogue and goes on with its answer. -/
def Party.Converses (f : β → Activity S α) (d : Api.Dialogue β) (p : Party S α) : Prop :=
  ∃ s, p = (((Activity.ofDialogue d).bind f).advance s).2

theorem Party.converses_after_nil {f : β → Activity S α} {d : Api.Dialogue β} {p : Party S α} :
    p.Converses f (d.after []) ↔ p.Converses f d :=
  exists_congr fun s => by rw [Activity.advance_ofDialogue d]

/-- The reply that an occurrence brings for the party in a place. -/
def Occurrence.replyTo? (i : Nat) : Occurrence S α → Option Api.Reply
  | reaches j (.reply r) => if j = i then some r else none
  | _ => none

theorem Occurrence.replyTo?_eq_some {i : Nat} {o : Occurrence S α} {r : Api.Reply} :
    o.replyTo? i = some r ↔ o = reaches i (.reply r) := by
  constructor
  · intro h
    cases o with
    | reaches j signal =>
      cases signal with
      | reply r' =>
        by_cases hj : j = i
        · simp only [replyTo?, hj, if_true, Option.some.injEq] at h
          rw [hj, h]
        · simp [replyTo?, hj] at h
      | time => cases h
    | _ => cases h
  · rintro rfl
    exact if_pos rfl

/-! ## Parties that converse -/

namespace Ensemble

/-- The replies that some occurrences bring for the party in a place, the first one first. -/
def repliesTo (i : Nat) (os : List (Occurrence S α)) : List Api.Reply :=
  os.filterMap (Occurrence.replyTo? i)

variable {e : Ensemble S α} {i : Nat} {p : Party S α}

/-- A party that has ended sends nothing any more. -/
theorem requestsOf_of_ended {a : α} (h : e.parties[i]? = some (.ended a)) (os : List (Occurrence S α)) :
    e.requestsOf i os = [] := by
  induction os generalizing e with
  | nil => rfl
  | cons o os ih =>
    have hasks : e.asks? i o = none := (unreached h fun signal _ => by cases signal <;> rfl).2
    rw [requestsOf, hasks, ih (step_ended h o)]
    rfl

/-- A party that ends with its next reply sends nothing any more either, and if it ends, then with a result of the
sort that this reply leads to. -/
theorem requestsOf_of_last {P : α → Prop} {request : Api.Request} {next : Api.Reply → Activity S α}
    (h : e.parties[i]? = some (.awaiting request next))
    (hnext : ∀ r s, ∃ a, P a ∧ ((next r).advance s).2 = .ended a) (os : List (Occurrence S α)) :
    e.requestsOf i os = [] ∧ ∀ a, (e.run os).parties[i]? = some (.ended a) → P a := by
  induction os generalizing e with
  | nil => exact ⟨rfl, fun a ha => nomatch h.symm.trans ha⟩
  | cons o os ih =>
    cases hreply : o.replyTo? i with
    | some r =>
      obtain rfl := Occurrence.replyTo?_eq_some.mp hreply
      obtain ⟨a, ha, hadvance⟩ := hnext r e.state
      have hon : (Party.awaiting request next).onward? (.reply r) = some (next r) := rfl
      obtain ⟨-, hparty, hasks, -⟩ := reached h hon rfl
      rw [hadvance] at hparty hasks
      rw [requestsOf, hasks, requestsOf_of_ended hparty, run_cons, run_ended hparty]
      refine ⟨rfl, fun a' ha' => ?_⟩
      obtain rfl := Party.ended.inj (Option.some.inj ha')
      exact ha
    | none =>
      obtain ⟨hparty, hasks⟩ := unreached (o := o) h fun signal hsignal => by
        cases signal with
        | reply r => simp [hsignal, Occurrence.replyTo?] at hreply
        | time => rfl
      obtain ⟨hsent, hresult⟩ := ih hparty
      rw [requestsOf, hasks]
      exact ⟨hsent, hresult⟩

variable {f : β → Activity S α} {d : Api.Dialogue β}

/-- An occurrence brings a dialogue on by the reply that it has for the party, if any.  The party has to end
with the answer, as nothing would be known of what it does afterwards. -/
theorem converses_step (hf : ∀ b s, ∃ a, ((f b).advance s).2 = .ended a)
    (h : ∃ p, e.parties[i]? = some p ∧ p.Converses f d) (o : Occurrence S α) :
    ∃ p, (e.step o).parties[i]? = some p ∧ p.Converses f (d.after (o.replyTo? i).toList) := by
  obtain ⟨p, hp, hconverses⟩ := h
  obtain ⟨s, rfl⟩ := Party.converses_after_nil.mpr hconverses
  have hafter : d.after (o.replyTo? i).toList = (d.after []).after (o.replyTo? i).toList :=
    d.after_append [] _
  rw [hafter]
  obtain ⟨request, next, hd⟩ | ⟨b, hd⟩ := d.after_cases []
  · rw [hd] at hp ⊢
    cases hreply : o.replyTo? i with
    | some r =>
      obtain rfl := Occurrence.replyTo?_eq_some.mp hreply
      have hon : ((((Activity.ofDialogue (.ask request next)).bind f).advance s).2).onward? (.reply r) =
          some ((Activity.ofDialogue (next r)).bind f) := rfl
      obtain ⟨-, hq, -⟩ := reached hp hon rfl
      have hnext : Party.Converses f (next r) _ := ⟨e.state, rfl⟩
      exact ⟨_, hq, Party.converses_after_nil.mpr hnext⟩
    | none =>
      refine ⟨_, (unreached hp ?_).1, s, rfl⟩
      rintro (r | _) rfl
      · simp [Occurrence.replyTo?] at hreply
      · rfl
  · rw [hd] at hp ⊢
    obtain ⟨a, ha⟩ := hf b s
    exact ⟨.ended a, step_ended (hp.trans (congrArg some ha)) o, s, ha.symm⟩

/-- A party that holds a dialogue stands where the replies for it have brought the dialogue. -/
theorem converses_run (hf : ∀ b s, ∃ a, ((f b).advance s).2 = .ended a)
    (h : ∃ p, e.parties[i]? = some p ∧ p.Converses f d) (os : List (Occurrence S α)) :
    ∃ p, (e.run os).parties[i]? = some p ∧ p.Converses f (d.after (repliesTo i os)) := by
  induction os generalizing e d with
  | nil =>
    obtain ⟨p, hp, hconverses⟩ := h
    exact ⟨p, hp, Party.converses_after_nil.mpr hconverses⟩
  | cons o os ih =>
    have hreplies : repliesTo i (o :: os) = (o.replyTo? i).toList ++ repliesTo i os := by
      cases ho : o.replyTo? i <;> simp [repliesTo, ho]
    rw [hreplies, Api.Dialogue.after_append]
    exact ih (converses_step hf h o)

end Ensemble

end RunWatch
