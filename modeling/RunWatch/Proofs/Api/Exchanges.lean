import RunWatch.Api.Endpoint
import RunWatch.Proofs.Ensemble.Conversation

/-!
# Exchanges in a row

Most calls are one exchange after the other: a request, a reply that is judged, and the next request only if
the reply passes.  An `Exchange` is the request together with what is expected of the body of its reply, and
`Call.following` is the call that makes some exchanges in order before it goes on.  The calls of an endpoint are
brought to this form by `Call.andThen_ask` and `Call.andThen_following`.

`Reply.Unusable` lists the ways in which a single reply fails the call that waits for it.
-/

namespace RunWatch.Api

/-! ## Replies that cannot be used -/

/-- A reply that cannot be used where the body has to satisfy `reads`, and the fault that it amounts to: no
response came, its status is outside 200..299, or its body is not as it has to be. -/
inductive Reply.Unusable (reads : String → Bool) : Reply → Fault → Prop
  | noReply (f : Http.Failure) : Unusable reads (.failure f) (.noReply f)
  | status (r : Response) (h : r.status < 200 ∨ 299 < r.status) :
      Unusable reads (.response r) (.status r.status r.body)
  | body (r : Response) (hlow : 200 ≤ r.status) (hhigh : r.status ≤ 299) (h : reads r.body = false) :
      Unusable reads (.response r) .badBody

namespace Reply

variable {reads : String → Bool} {fault : Fault}

theorem unusable_failure {f : Http.Failure} : (failure f).Unusable reads fault ↔ .noReply f = fault := by
  constructor
  · rintro ⟨⟩
    rfl
  · rintro rfl
    exact .noReply f

theorem unusable_response {r : Response} : (response r).Unusable reads fault ↔
    (r.isSuccess = false ∧ .status r.status r.body = fault) ∨
      (r.isSuccess = true ∧ reads r.body = false ∧ .badBody = fault) := by
  have hsuccess : r.isSuccess = true ↔ 200 ≤ r.status ∧ r.status ≤ 299 := by
    simp only [Response.isSuccess, Bool.and_eq_true, decide_eq_true_eq]
    omega
  have hrefused : r.isSuccess = false ↔ r.status < 200 ∨ 299 < r.status := by
    rw [← Bool.not_eq_true, hsuccess]
    omega
  rw [hsuccess, hrefused]
  constructor
  · rintro (_ | ⟨_, h⟩ | ⟨_, hlow, hhigh, h⟩)
    · exact .inl ⟨h, rfl⟩
    · exact .inr ⟨⟨hlow, hhigh⟩, h, rfl⟩
  · rintro (⟨h, rfl⟩ | ⟨⟨hlow, hhigh⟩, h, rfl⟩)
    · exact .status r h
    · exact .body r hlow hhigh h

/-- Decoding a reply fails exactly if it cannot be used. -/
theorem decode_eq_error {α : Type} {c : Json.Codec α} {reply : Reply} :
    reply.decode c = .error fault ↔ reply.Unusable (fun body => (decodeText? c body).isSome) fault := by
  cases reply with
  | failure f =>
    rw [unusable_failure, decode, Except.error.injEq]
  | response r =>
    rw [unusable_response, decode]
    cases r.isSuccess <;> cases decodeText? c r.body <;> simp

/-- Confirming a reply fails exactly if it cannot be used whatever its body is. -/
theorem confirm_eq_error {reply : Reply} :
    reply.confirm = .error fault ↔ reply.Unusable (fun _ => true) fault := by
  cases reply with
  | failure f =>
    rw [unusable_failure, confirm, Except.error.injEq]
  | response r =>
    rw [unusable_response, confirm]
    cases r.isSuccess <;> simp

end Reply

/-! ## Exchanges -/

/-- A single exchange sends its request, whatever replies come. -/
theorem asked_exchange {α : Type} (c : Json.Codec α) (request : Request) (replies : List Reply) :
    (exchange c request).asked replies = [request] := by
  cases replies with
  | nil => rfl
  | cons reply replies => rfl

/-- A request and what is expected of the body of its reply. -/
structure Exchange where
  request : Request
  expected : String → Bool

namespace Exchange

/-- A reply passes if it reports success and its body is what is expected. -/
def judge (x : Exchange) : Reply → Except Fault Unit
  | .failure f => .error (.noReply f)
  | .response r =>
    if r.isSuccess then
      if x.expected r.body then .ok () else .error .badBody
    else .error (.status r.status r.body)

/-- An exchange whose reply carries something in a codec's form. -/
def decoding {α : Type} (c : Json.Codec α) (request : Request) : Exchange :=
  ⟨request, fun body => (decodeText? c body).isSome⟩

/-- An exchange the body of whose reply does not matter. -/
def confirming (request : Request) : Exchange :=
  ⟨request, fun _ => true⟩

/-- The count of replies that pass before the first one that does not. -/
def passed : List Exchange → List Reply → Nat
  | x :: xs, r :: rs =>
    match x.judge r with
    | .ok () => passed xs rs + 1
    | .error _ => 0
  | _, _ => 0

variable {α : Type} {c : Json.Codec α} {request : Request} {reply : Reply}

/-- A reply decodes exactly if it passes, and is refused with the same fault otherwise. -/
theorem judge_decoding :
    (decoding c request).judge reply = (reply.decode c).map fun _ => () := by
  cases reply with
  | failure f => rfl
  | response r =>
    unfold judge Reply.decode
    by_cases hsuccess : r.isSuccess = true
    · cases hbody : decodeText? c r.body <;> simp [hsuccess, hbody, decoding, Except.map]
    · simp [hsuccess, Except.map]

/-- A reply that does not pass is refused with the fault it is judged by. -/
theorem decode_of_judge {fault : Fault} (h : (decoding c request).judge reply = .error fault) :
    reply.decode c = .error fault := by
  rw [judge_decoding] at h
  cases hdecode : reply.decode c with
  | ok a =>
    rw [hdecode] at h
    cases h
  | error fault' =>
    rw [hdecode] at h
    exact congrArg Except.error (Except.error.inj h)

theorem exists_decode_of_judge (h : (decoding c request).judge reply = .ok ()) :
    ∃ a, reply.decode c = .ok a := by
  rw [judge_decoding] at h
  cases hdecode : reply.decode c with
  | ok a => exact ⟨a, rfl⟩
  | error fault =>
    rw [hdecode] at h
    cases h

/-! ## How many replies pass -/

variable {xs : List Exchange} {rs : List Reply}

/-- Once a reply has not passed, or there is nothing left to ask, further replies do not count. -/
theorem passed_concat_of_over (h : passed xs rs < rs.length ∨ passed xs rs = xs.length) (r : Reply) :
    passed xs (rs ++ [r]) = passed xs rs := by
  induction xs generalizing rs with
  | nil => simp [passed]
  | cons x xs ih =>
    cases rs with
    | nil => simp [passed] at h
    | cons r' rs =>
      cases hjudge : x.judge r' with
      | error fault => simp [passed, hjudge]
      | ok u =>
        simp only [passed, hjudge, List.length_cons, Nat.add_lt_add_iff_right, Nat.add_right_cancel_iff] at h
        simp only [List.cons_append, passed, hjudge, ih h]

/-- If all replies so far have passed, the next one is judged by the exchange in its place. -/
theorem passed_concat (h : passed xs rs = rs.length) {x : Exchange} (hx : xs[rs.length]? = some x) (r : Reply) :
    passed xs (rs ++ [r]) = match x.judge r with
      | .ok () => rs.length + 1
      | .error _ => rs.length := by
  induction xs generalizing rs with
  | nil => simp at hx
  | cons y xs ih =>
    cases rs with
    | nil =>
      obtain rfl : y = x := by simpa using hx
      cases hjudge : y.judge r <;> simp [passed, hjudge]
    | cons r' rs =>
      cases hjudge : y.judge r' with
      | error fault => simp [passed, hjudge] at h
      | ok u =>
        simp only [passed, hjudge, List.length_cons, Nat.add_right_cancel_iff] at h
        simp only [List.length_cons, List.getElem?_cons_succ] at hx
        simp only [List.cons_append, passed, hjudge, ih h hx]
        cases x.judge r <;> rfl

end Exchange

namespace Call

variable {α β : Type}

/-- Some exchanges in order, and then a call; a reply that does not pass ends them. -/
def following : List Exchange → Call α → Call α
  | [], d => d
  | x :: xs, d =>
    .ask x.request fun reply =>
      match x.judge reply with
      | .ok () => following xs d
      | .error fault => .answer (.error fault)

end Call

end RunWatch.Api
