import RunWatch.Proofs.Ensemble.Renewal

/-!
# Parts of an ensemble

Parties that have nothing to do with some others can be left out.  A roll says of each party in order of arrival whether
it belongs to a part; the part is played alone by leaving out what does not belong to it and counting its parties anew.
If a relation between states is kept by the part on both sides, and by the others on one side whatever is on the other,
then the whole and the part played alone stay related, and what others see of the parties in the part is the same in
both (`Ensemble.parted_moves`).  So the others neither reach what the relation compares, nor delay or drop what the
parties of the part are about to do.
-/

namespace RunWatch

variable {S α β : Type}

/-- The place that a party has in a part. -/
def placeAmong : List Bool → Nat → Option Nat
  | [], _ => none
  | true :: _, 0 => some 0
  | false :: _, 0 => none
  | true :: roll, i + 1 => (placeAmong roll i).map (· + 1)
  | false :: roll, i + 1 => placeAmong roll i

/-- The elements of a list that belong to a part. -/
def among : List Bool → List β → List β
  | true :: roll, x :: xs => x :: among roll xs
  | false :: roll, _ :: xs => among roll xs
  | _, _ => []

/-- The moves of a part, with the places in them as they are there. -/
def partOf {M : Type} (occurrence : M → Occurrence S α) (belongs : M → Bool) (seen : List Bool → M → Option M) :
    List Bool → List M → List M
  | _, [] => []
  | roll, m :: moves => (seen roll m).toList ++
      partOf occurrence belongs seen (if (occurrence m).isEntry then roll ++ [belongs m] else roll) moves

/-- Which of the parties that some moves bring belong to a part. -/
def rollOf {M : Type} (occurrence : M → Occurrence S α) (belongs : M → Bool) (moves : List M) : List Bool :=
  (moves.filter fun m => (occurrence m).isEntry).map belongs

/-- What an occurrence is for a part.  What reaches a party belongs where the party does. -/
def Occurrence.inPart (belongs : Bool) (roll : List Bool) : Occurrence S α → Option (Occurrence S α)
  | .enters a => if belongs then some (.enters a) else none
  | .reaches i signal => (placeAmong roll i).map (.reaches · signal)
  | .passes change => if belongs then some (.passes change) else none

/-- A change that makes no difference to what a relation compares. -/
def Unnoticed (rel : S → S → Prop) (change : S → S) : Prop :=
  ∀ s t, rel s t → rel (change s) t

/-- What makes no difference in any of its changes makes none when it is played on. -/
theorem Activity.Each.unnoticed {rel : S → S → Prop} {a : Activity S α} (ha : a.Each (Unnoticed rel)) {s t : S}
    (hst : rel s t) : rel (a.advance s).1 t := by
  have hkeeps : ∀ change, Unnoticed rel change → ∀ s, rel s t → rel (change s) t :=
    fun _ hchange s hs => hchange s t hs
  exact ha.advance hkeeps hst

namespace Ensemble

/-- The parties of an ensemble and those of a part of it: the ones that belong to it are alike in both, and the others
do nothing that is noticed there. -/
inductive Joined (rel : S → S → Prop) : List Bool → List (Party S α) → List (Party S α) → Prop
  | nil : Joined rel [] [] []
  | own {roll : List Bool} {ps qs : List (Party S α)} {p q : Party S α} (h : p.Alike rel q)
      (rest : Joined rel roll ps qs) : Joined rel (true :: roll) (p :: ps) (q :: qs)
  | other {roll : List Bool} {ps qs : List (Party S α)} {p : Party S α}
      (h : p.Continues (Activity.Each (Unnoticed rel))) (rest : Joined rel roll ps qs) :
      Joined rel (false :: roll) (p :: ps) qs

namespace Joined

variable {rel : S → S → Prop} {roll : List Bool} {ps qs : List (Party S α)}

theorem own_comes (h : Joined rel roll ps qs) {p q : Party S α} (hpq : p.Alike rel q) :
    Joined rel (roll ++ [true]) (ps ++ [p]) (qs ++ [q]) := by
  induction h with
  | nil => exact .own hpq .nil
  | own h _ ih => exact .own h ih
  | other h _ ih => exact .other h ih

theorem other_comes (h : Joined rel roll ps qs) {p : Party S α}
    (hp : p.Continues (Activity.Each (Unnoticed rel))) : Joined rel (roll ++ [false]) (ps ++ [p]) qs := by
  induction h with
  | nil => exact .other hp .nil
  | own h _ ih => exact .own h ih
  | other h _ ih => exact .other h ih

/-- A party of the part is alike in its two places, and may be replaced there by parties that are. -/
theorem own_place (h : Joined rel roll ps qs) {i j : Nat} (hplace : placeAmong roll i = some j) :
    (∃ p q, ps[i]? = some p ∧ qs[j]? = some q ∧ p.Alike rel q) ∧
      ∀ p q : Party S α, p.Alike rel q → Joined rel roll (ps.set i p) (qs.set j q) := by
  induction h generalizing i j with
  | nil => cases hplace
  | @own _ _ _ p q hpq rest ih =>
    cases i with
    | zero =>
      obtain rfl : 0 = j := Option.some.inj hplace
      exact ⟨⟨p, q, rfl, rfl, hpq⟩, fun p' q' h' => .own h' rest⟩
    | succ i =>
      obtain ⟨k, hk, rfl⟩ := Option.map_eq_some_iff.mp hplace
      obtain ⟨hparties, hset⟩ := ih hk
      exact ⟨hparties, fun p' q' h' => .own hpq (hset p' q' h')⟩
  | other hp _ ih =>
    cases i with
    | zero => cases hplace
    | succ i =>
      obtain ⟨hparties, hset⟩ := ih hplace
      exact ⟨hparties, fun p' q' h' => .other hp (hset p' q' h')⟩

/-- A party outside the part is not noticed there, and may be replaced by one that is not either. -/
theorem other_place (h : Joined rel roll ps qs) {i : Nat} (hplace : placeAmong roll i = none) :
    (∀ p, ps[i]? = some p → p.Continues (Activity.Each (Unnoticed rel))) ∧
      ∀ p : Party S α, p.Continues (Activity.Each (Unnoticed rel)) → Joined rel roll (ps.set i p) qs := by
  induction h generalizing i with
  | nil => exact ⟨fun p hp => by simp at hp, fun p _ => .nil⟩
  | own hpq _ ih =>
    cases i with
    | zero => cases hplace
    | succ i =>
      obtain ⟨hparty, hset⟩ := ih (Option.map_eq_none_iff.mp hplace)
      exact ⟨hparty, fun p' h' => .own hpq (hset p' h')⟩
  | @other _ _ _ p hp rest ih =>
    cases i with
    | zero =>
      refine ⟨fun p' hp' => ?_, fun p' h' => .other h' rest⟩
      obtain rfl := Option.some.inj hp'
      exact hp
    | succ i =>
      obtain ⟨hparty, hset⟩ := ih hplace
      exact ⟨hparty, fun p' h' => .other hp (hset p' h')⟩

theorem sights (h : Joined rel roll ps qs) : among roll (ps.map Party.sight) = qs.map Party.sight := by
  induction h with
  | nil => rfl
  | own hpq _ ih => rw [List.map_cons, List.map_cons, among, hpq.sight, ih]
  | other _ _ ih => rw [List.map_cons, among, ih]

end Joined

/-- An ensemble and a part of it that is played alone. -/
structure Parted (rel : S → S → Prop) (roll : List Bool) (whole part : Ensemble S α) : Prop where
  state : rel whole.state part.state
  parties : Joined rel roll whole.parties part.parties

namespace Parted

variable {rel : S → S → Prop} {roll : List Bool} {whole part : Ensemble S α}

/-- What reaches a party of the part reaches it in both; what reaches another one is not noticed. -/
theorem reaches (h : Parted rel roll whole part) (i : Nat) (signal : Signal) :
    Parted rel roll (whole.step (.reaches i signal))
      (part.run (Occurrence.inPart true roll (.reaches i signal)).toList) := by
  rw [Occurrence.inPart]
  cases hplace : placeAmong roll i with
  | none =>
    obtain ⟨hparty, hset⟩ := h.parties.other_place hplace
    change Parted rel roll _ part
    cases hon : whole.onward? i signal with
    | none => rwa [step_reaches_none hon]
    | some a =>
      obtain ⟨p, hp, ha⟩ := onward?_eq_some.mp hon
      have heach := hparty p hp signal a ha
      rw [step_reaches_some hon]
      exact ⟨heach.unnoticed h.state,
        hset _ (Activity.each_steady _ a heach whole.state)⟩
  | some j =>
    obtain ⟨⟨p, q, hp, hq, hpq⟩, hset⟩ := h.parties.own_place hplace
    change Parted rel roll _ (part.step (.reaches j signal))
    have honward := hpq.onward signal
    have hwhole : whole.onward? i signal = p.onward? signal := by rw [onward?, hp, Option.bind_some]
    have hpart : part.onward? j signal = q.onward? signal := by rw [onward?, hq, Option.bind_some]
    rw [step, step, hwhole, hpart]
    generalize p.onward? signal = a, q.onward? signal = b at honward
    cases honward with
    | none => exact h
    | some hab =>
      obtain ⟨hstate, hparty⟩ := hab.advance h.state
      exact ⟨hstate, hset _ _ hparty⟩

/-- An occurrence that belongs to the part happens in both. -/
theorem step_own (h : Parted rel roll whole part) {o : Occurrence S α} (ho : o.Respects rel) :
    Parted rel (if o.isEntry then roll ++ [true] else roll) (whole.step o) (part.run (o.inPart true roll).toList) := by
  cases o with
  | enters a =>
    obtain ⟨hstate, hparty⟩ := Activity.Alike.advance ho h.state
    exact ⟨hstate, h.parties.own_comes hparty⟩
  | reaches i signal => exact h.reaches i signal
  | passes change => exact ⟨ho _ _ h.state, h.parties⟩

/-- An occurrence that does not belong to the part is not noticed there. -/
theorem step_other (h : Parted rel roll whole part) {o : Occurrence S α} (ho : o.Makes (Unnoticed rel)) :
    Parted rel (if o.isEntry then roll ++ [false] else roll) (whole.step o)
      (part.run (o.inPart false roll).toList) := by
  cases o with
  | enters a =>
    exact ⟨Activity.Each.unnoticed ho h.state,
      h.parties.other_comes (Activity.each_steady _ a ho whole.state)⟩
  | reaches i signal => exact h.reaches i signal
  | passes change => exact ⟨ho _ _ h.state, h.parties⟩

end Parted

variable {M : Type} {rel : S → S → Prop} {occurrence : M → Occurrence S α} {belongs : M → Bool}
  {seen : List Bool → M → Option M}

theorem Parted.run (hseen : ∀ roll m, (seen roll m).map occurrence = (occurrence m).inPart (belongs m) roll)
    (hown : ∀ m, belongs m = true → (occurrence m).Respects rel)
    (hother : ∀ m, belongs m = false → (occurrence m).Makes (Unnoticed rel)) {roll : List Bool}
    {whole part : Ensemble S α} (h : Parted rel roll whole part) (moves : List M) :
    Parted rel (roll ++ rollOf occurrence belongs moves) (whole.run (moves.map occurrence))
      (part.run ((partOf occurrence belongs seen roll moves).map occurrence)) := by
  induction moves generalizing roll whole part with
  | nil =>
    rw [rollOf, List.filter_nil, List.map_nil, List.append_nil]
    exact h
  | cons m moves ih =>
    have hstep : Parted rel (if (occurrence m).isEntry then roll ++ [belongs m] else roll)
        (whole.step (occurrence m)) (part.run ((seen roll m).toList.map occurrence)) := by
      rw [← Option.toList_map, hseen]
      cases hm : belongs m with
      | true => exact h.step_own (hown m hm)
      | false => exact h.step_other (hother m hm)
    have hrest := ih hstep
    have hroll : (if (occurrence m).isEntry then roll ++ [belongs m] else roll) ++ rollOf occurrence belongs moves =
        roll ++ rollOf occurrence belongs (m :: moves) := by
      cases hm : (occurrence m).isEntry <;> simp [rollOf, hm]
    rw [hroll, ← run_append, ← List.map_append] at hrest
    exact hrest

/-- An ensemble and a part of it that begin alike stay related, whatever happens, and others see the same of the
parties in the part. -/
theorem parted_moves (hseen : ∀ roll m, (seen roll m).map occurrence = (occurrence m).inPart (belongs m) roll)
    (hown : ∀ m, belongs m = true → (occurrence m).Respects rel)
    (hother : ∀ m, belongs m = false → (occurrence m).Makes (Unnoticed rel)) {s : S} (hs : rel s s)
    (moves : List M) :
    let whole := (alone s).run (moves.map occurrence)
    let part := (alone s).run ((partOf occurrence belongs seen [] moves).map occurrence)
    rel whole.state part.state ∧
      among (rollOf occurrence belongs moves) (whole.parties.map Party.sight) = part.parties.map Party.sight := by
  intro whole part
  have hstart : Parted (α := α) rel [] (alone s) (alone s) := ⟨hs, .nil⟩
  have h := hstart.run hseen hown hother moves
  exact ⟨h.state, h.parties.sights⟩

end Ensemble

end RunWatch
