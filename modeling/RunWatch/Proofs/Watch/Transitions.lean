import RunWatch.Platform.Page
import RunWatch.Watch.Transition

/-!
# Transitions over a row of looks

The watcher looks at its runs again and again, and each look is compared with the statuses known from the looks
before.  `digest` is what a row of looks comes to.  `changesAfter` says the same without a memory: each run is
compared with the last time that it was seen at all.  That the two agree (`flatten_digest`) means that between
them the looks report every change of status in what they have seen, and none twice.
-/

namespace RunWatch.Watch

/-- The status that a run had when it was last among some runs. -/
def lastSeen (id : Uuid) (seen : List Run) : Option RunStatus :=
  (seen.reverse.find? fun r => r.id = id).map Run.status

/-- The changes of status in a row of runs, each run against the last time it was seen. -/
def changesAfter (seen : List Run) : List Run → List Transition
  | [] => []
  | r :: rs =>
    (if lastSeen r.id seen = some r.status then none
      else some ⟨r.id, r.key, lastSeen r.id seen, r.status⟩).toList ++ changesAfter (seen ++ [r]) rs

/-- The statuses known after some pages, and the transitions that each of them brings. -/
def digest (known : Known) : List (Page Run) → Known × List (List Transition)
  | [] => (known, [])
  | p :: ps =>
    ((digest (transitions known p.items).1 ps).1,
      (transitions known p.items).2 :: (digest (transitions known p.items).1 ps).2)

theorem digest_concat (known : Known) (pages : List (Page Run)) (p : Page Run) :
    digest known (pages ++ [p]) =
      ((transitions (digest known pages).1 p.items).1,
        (digest known pages).2 ++ [(transitions (digest known pages).1 p.items).2]) := by
  induction pages generalizing known with
  | nil => rfl
  | cons q pages ih => simp only [List.cons_append, digest, ih]

theorem lastSeen_concat (id : Uuid) (seen : List Run) (r : Run) :
    lastSeen id (seen ++ [r]) = if r.id = id then some r.status else lastSeen id seen := by
  by_cases h : r.id = id
  · simp [lastSeen, h]
  · simp [lastSeen, h]

namespace Known

theorem find?_set (id id' : Uuid) (status : RunStatus) (known : Known) :
    (known.set id status).find? id' = if id = id' then some status else known.find? id' := by
  induction known with
  | nil =>
    by_cases h : id = id'
    · simp [set, find?, h]
    · simp [set, find?, h]
  | cons k known ih =>
    obtain ⟨k, s⟩ := k
    unfold find? at ih
    by_cases hk : k = id
    · subst hk
      by_cases h : k = id'
      · simp [set, find?, h]
      · simp [set, find?, h]
    · by_cases h : k = id'
      · subst h
        simp [set, find?, hk, Ne.symm hk]
      · simp [set, find?, hk, h, ih]

/-- The statuses known are those that the runs had when they were last seen. -/
def Recalls (known : Known) (seen : List Run) : Prop :=
  ∀ id, known.find? id = lastSeen id seen

theorem recalls_nil : Recalls [] [] :=
  fun _ => rfl

variable {known : Known} {seen : List Run}

theorem Recalls.set (h : known.Recalls seen) (r : Run) :
    (known.set r.id r.status).Recalls (seen ++ [r]) := by
  intro id
  rw [find?_set, lastSeen_concat, h id]

theorem Recalls.transitions (h : known.Recalls seen) (runs : List Run) :
    (transitions known runs).1.Recalls (seen ++ runs) ∧ (transitions known runs).2 = changesAfter seen runs := by
  induction runs generalizing known seen with
  | nil => exact ⟨by simpa [Watch.transitions] using h, rfl⟩
  | cons r runs ih =>
    obtain ⟨hrecalls, hchanges⟩ := ih (h.set r)
    have hone : transition? known r = if lastSeen r.id seen = some r.status then none
        else some ⟨r.id, r.key, lastSeen r.id seen, r.status⟩ := by
      rw [transition?, h r.id]
    refine ⟨?_, ?_⟩
    · rw [List.append_assoc] at hrecalls
      exact hrecalls
    · rw [Watch.transitions, changesAfter, ← hchanges, ← hone]

end Known

/-! ## One long look -/

theorem transitions_cons (known : Known) (r : Run) (runs : List Run) :
    transitions known (r :: runs) =
      ((transitions (known.set r.id r.status) runs).1,
        (transition? known r).toList ++ (transitions (known.set r.id r.status) runs).2) := rfl

theorem transitions_append (known : Known) (runs runs' : List Run) :
    transitions known (runs ++ runs') =
      ((transitions (transitions known runs).1 runs').1,
        (transitions known runs).2 ++ (transitions (transitions known runs).1 runs').2) := by
  induction runs generalizing known with
  | nil => rfl
  | cons r runs ih => simp only [List.cons_append, transitions_cons, ih, List.append_assoc]

/-- A row of looks comes to the same as a look at all that they show. -/
theorem digest_eq_transitions (known : Known) (pages : List (Page Run)) :
    ((digest known pages).1, (digest known pages).2.flatten) = transitions known (pages.flatMap Page.items) := by
  induction pages generalizing known with
  | nil => rfl
  | cons p pages ih =>
    rw [List.flatMap_cons, transitions_append, ← ih]
    rfl

/-- A row of pages brings exactly the changes of status in what it shows, each of them once. -/
theorem flatten_digest {known : Known} {seen : List Run} (h : known.Recalls seen) (pages : List (Page Run)) :
    (digest known pages).2.flatten = changesAfter seen (pages.flatMap Page.items) := by
  have hone : (digest known pages).2.flatten = (transitions known (pages.flatMap Page.items)).2 :=
    congrArg Prod.snd (digest_eq_transitions known pages)
  rw [hone, (h.transitions _).2]

end RunWatch.Watch
