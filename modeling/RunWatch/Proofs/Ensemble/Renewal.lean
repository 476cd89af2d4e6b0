import RunWatch.Proofs.Ensemble.Likeness
import RunWatch.Proofs.Ensemble.Outdated

/-!
# Leaving the past behind

What it takes for an ensemble to begin anew.  `Ensemble.Renewed` compares an ensemble with parties for which
time is past with one that never had them; the states and the other parties are alike.  No list of
occurrences tells the two apart when the signals to the outdated parties are left out for the second
(`Renewed.run`), and a change that makes everything before it past brings them about (`renewed_run`).
-/

namespace RunWatch

variable {S α : Type}

/-- Activities whose time is past leave the state alone. -/
theorem Activity.Each.idle {time : Passage S} {past : S} {a : Activity S α}
    (ha : a.Each (time.Outdates past)) {s : S} (hs : time.lt past s) :
    (a.advance s).1 = s ∧ (a.advance s).2.Continues (Activity.Each (time.Outdates past)) := by
  have hidle : ∀ change, time.Outdates past change → ∀ t, t = s → change t = s := by
    intro change hchange t ht
    rw [ht]
    exact hchange.2 s hs
  exact ⟨ha.advance hidle rfl, each_steady _ a ha s⟩

/-- What an occurrence is for those who came after the first `n` parties. -/
def Occurrence.since (n : Nat) : Occurrence S α → Option (Occurrence S α)
  | .enters a => some (.enters a)
  | .reaches i signal => if i < n then none else some (.reaches (i - n) signal)
  | .passes change => some (.passes change)

/-- An occurrence that keeps related states related. -/
def Occurrence.Respects (rel : S → S → Prop) : Occurrence S α → Prop
  | .enters a => a.Alike rel Eq a
  | .reaches _ _ => True
  | .passes change => ∀ s t, rel s t → rel (change s) (change t)

namespace Ensemble

/-- An ensemble for which `past` is past, with the `n` parties of then, and one that never had those. -/
structure Renewed (time : Passage S) (past : S) (rel : S → S → Prop) (n : Nat) (old new : Ensemble S α) :
    Prop where
  state : rel old.state new.state
  length : old.parties.length = n + new.parties.length
  stale : ∀ i p, i < n → old.parties[i]? = some p → p.Continues (Activity.Each (time.Outdates past))
  live : ∀ i, Option.Rel (Party.Alike rel) old.parties[n + i]? new.parties[i]?

variable {time : Passage S} {past : S} {rel : S → S → Prop} {n : Nat} {old new : Ensemble S α}

/-- Another party joins both. -/
theorem Renewed.enter (h : Renewed time past rel n old new) {a : Activity S α} (ha : a.Alike rel Eq a) :
    Renewed time past rel n (old.step (.enters a)) (new.step (.enters a)) := by
  obtain ⟨hstate, hparty⟩ := ha.advance h.state
  have hlength := h.length
  refine ⟨hstate, ?_, ?_, ?_⟩
  · simp only [Ensemble.step, List.length_append, List.length_singleton]
    omega
  · intro i p hi hp
    rw [Ensemble.step, List.getElem?_append_left (by omega)] at hp
    exact h.stale i p hi hp
  · intro i
    by_cases hi : i < new.parties.length
    · rw [Ensemble.step, Ensemble.step, List.getElem?_append_left (by omega), List.getElem?_append_left hi]
      exact h.live i
    · rw [Ensemble.step, Ensemble.step, List.getElem?_append_right (by omega),
        List.getElem?_append_right (by omega), hlength, Nat.add_sub_add_left, List.getElem?_singleton,
        List.getElem?_singleton]
      split
      · exact .some hparty
      · exact .none

/-- A party from before goes on; nobody notices. -/
theorem Renewed.resume_stale (h : Renewed time past rel n old new) (hpast : ∀ s t, rel s t → time.lt past s) {i : Nat}
    (hi : i < n) {a : Activity S α} (ha : a.Each (time.Outdates past)) : Renewed time past rel n (old.resume i a) new := by
  obtain ⟨hstate, hparty⟩ := ha.idle (hpast _ _ h.state)
  refine ⟨?_, ?_, ?_, ?_⟩
  · rw [resume, hstate]
    exact h.state
  · rw [resume, List.length_set]
    exact h.length
  · intro j p hj hp
    rw [resume, List.getElem?_set] at hp
    split at hp
    · split at hp
      · obtain rfl := Option.some.inj hp
        exact hparty
      · cases hp
    · exact h.stale j p hj hp
  · intro j
    rw [resume, List.getElem?_set_ne (by omega)]
    exact h.live j

/-- A party from after goes on in both. -/
theorem Renewed.resume_live (h : Renewed time past rel n old new) (i : Nat) {a b : Activity S α}
    (hab : a.Alike rel Eq b) : Renewed time past rel n (old.resume (n + i) a) (new.resume i b) := by
  obtain ⟨hstate, hparty⟩ := hab.advance h.state
  have hlength := h.length
  refine ⟨hstate, ?_, ?_, ?_⟩
  · rw [resume, resume, List.length_set, List.length_set]
    exact hlength
  · intro j p hj hp
    rw [resume, List.getElem?_set_ne (by omega)] at hp
    exact h.stale j p hj hp
  · intro j
    rw [resume, resume, List.getElem?_set, List.getElem?_set]
    by_cases hij : i = j
    · rw [if_pos (by rw [hij]), if_pos hij]
      by_cases hi : i < new.parties.length
      · rw [if_pos (by omega), if_pos hi]
        exact .some hparty
      · rw [if_neg (by omega), if_neg hi]
        exact .none
    · rw [if_neg (by omega), if_neg hij]
      exact h.live j

/-- Parties from after go on alike. -/
theorem Renewed.onward (h : Renewed time past rel n old new) (i : Nat) (signal : Signal) :
    Option.Rel (Activity.Alike rel Eq) (old.onward? (n + i) signal) (new.onward? i signal) := by
  have hlive := h.live i
  rw [onward?, onward?]
  generalize old.parties[n + i]? = p, new.parties[i]? = q at hlive
  cases hlive with
  | none => exact .none
  | some hpq => exact hpq.onward signal

/-- What happens to an ensemble that has left its past behind happens to one that never had it, apart from
what reaches the parties of the past. -/
theorem Renewed.step (h : Renewed time past rel n old new) (hpast : ∀ s t, rel s t → time.lt past s)
    {o : Occurrence S α} (ho : o.Respects rel) :
    Renewed time past rel n (old.step o) (new.run (o.since n).toList) := by
  cases o with
  | enters a => exact h.enter ho
  | passes change => exact ⟨ho _ _ h.state, h.length, h.stale, h.live⟩
  | reaches i signal =>
    by_cases hi : i < n
    · rw [Occurrence.since, if_pos hi, Option.toList_none, run_nil]
      cases hon : old.onward? i signal with
      | none =>
        rw [step_reaches_none hon]
        exact h
      | some a =>
        obtain ⟨p, hp, ha⟩ := onward?_eq_some.mp hon
        rw [step_reaches_some hon]
        exact h.resume_stale hpast hi (h.stale i p hi hp signal a ha)
    · obtain ⟨k, rfl⟩ : ∃ k, i = n + k := ⟨i - n, by omega⟩
      have honward := h.onward k signal
      rw [Occurrence.since, if_neg hi, Nat.add_sub_cancel_left, Option.toList_some, run_cons, run_nil,
        Ensemble.step, Ensemble.step]
      generalize old.onward? (n + k) signal = a, new.onward? k signal = b at honward
      cases honward with
      | none => exact h
      | some hab => exact h.resume_live k hab

theorem Renewed.run (h : Renewed time past rel n old new) (hpast : ∀ s t, rel s t → time.lt past s)
    {os : List (Occurrence S α)} (hos : ∀ o ∈ os, o.Respects rel) :
    Renewed time past rel n (old.run os) (new.run (os.filterMap (Occurrence.since n))) := by
  induction os generalizing old new with
  | nil => exact h
  | cons o os ih =>
    have hrest := ih (h.step hpast (hos o List.mem_cons_self)) fun o' ho' =>
      hos o' (List.mem_cons_of_mem o ho')
    rw [← run_append] at hrest
    rw [run_cons, List.filterMap_cons]
    cases hsince : o.since n with
    | none => simpa [hsince] using hrest
    | some o' => simpa [hsince] using hrest

/-- Others see the same of both, apart from the parties of the past. -/
theorem Renewed.sight (h : Renewed time past rel n old new) :
    (old.parties.drop n).map Party.sight = new.parties.map Party.sight := by
  apply List.ext_getElem?
  intro i
  have hlive := h.live i
  rw [List.getElem?_map, List.getElem?_map, List.getElem?_drop]
  generalize old.parties[n + i]? = p, new.parties[i]? = q at hlive
  cases hlive with
  | none => rfl
  | some hpq => exact congrArg some hpq.sight

/-- An ensemble begins anew with a change that makes everything before it past: from then on nobody can tell
it from one that begins where the change leads to. -/
theorem renewed_run {before after : List (Occurrence S α)} {s s' : S} {change : S → S}
    (hbefore : ∀ o ∈ before, o.Passing time) (hafter : ∀ o ∈ after, o.Respects rel)
    (hstart : rel (change ((alone s).run before).state) s')
    (hpast : ∀ t t', rel t t' → time.lt ((alone s).run before).state t) :
    Renewed time ((alone s).run before).state rel ((alone s).run before).parties.length
      ((alone s).run (before ++ .passes change :: after))
      ((alone s').run (after.filterMap (Occurrence.since ((alone s).run before).parties.length))) := by
  have houtdated := ((outdated_alone time s).run hbefore).2
  rw [run_append, run_cons]
  refine Renewed.run ⟨hstart, rfl, ?_, ?_⟩ hpast hafter
  · intro i p hi hp
    exact houtdated p (List.mem_of_getElem? hp)
  · intro i
    rw [step, List.getElem?_eq_none (Nat.le_add_right _ i)]
    exact .none

/-- The same for histories in moves of some sort `M`, of which each is an occurrence. -/
theorem renewed_moves {M : Type} {occurrence : M → Occurrence S α} {since : Nat → M → Option M}
    (hsince : ∀ n m, (since n m).map occurrence = (occurrence m).since n) {before after : List M} {reset : M}
    {s s' : S} {change : S → S} (hreset : occurrence reset = .passes change)
    (hbefore : ∀ m, (occurrence m).Passing time) (hafter : ∀ m, (occurrence m).Respects rel)
    (hstart : rel (change ((alone s).run (before.map occurrence)).state) s')
    (hpast : ∀ t t', rel t t' → time.lt ((alone s).run (before.map occurrence)).state t) :
    let past := (alone s).run (before.map occurrence)
    Renewed time past.state rel past.parties.length
      ((alone s).run ((before ++ reset :: after).map occurrence))
      ((alone s').run ((after.filterMap (since past.parties.length)).map occurrence)) := by
  intro past
  have hmap : (after.filterMap (since past.parties.length)).map occurrence =
      (after.map occurrence).filterMap (Occurrence.since past.parties.length) := by
    rw [List.map_filterMap, List.filterMap_map]
    exact congrArg (after.filterMap ·) (funext fun m => hsince _ m)
  rw [hmap, List.map_append, List.map_cons, hreset]
  refine renewed_run (fun o ho => ?_) (fun o ho => ?_) hstart hpast
  · obtain ⟨m, -, rfl⟩ := List.mem_map.mp ho
    exact hbefore m
  · obtain ⟨m, -, rfl⟩ := List.mem_map.mp ho
    exact hafter m

end Ensemble

end RunWatch
