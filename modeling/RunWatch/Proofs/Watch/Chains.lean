import RunWatch.Proofs.Past
import RunWatch.Proofs.Watch.Transitions

/-!
# Chains of transitions

The looks of a watcher see some runs again and again, leave out others for a while, and may show a run several times at
once.  However that goes, the transitions reported for one run are links of a chain (`Chained`): it starts at the status
known at first, each transition goes on from where the last one led to, and the status known in the end is where it stops
(`transitions_chained`).

A row of looks comes to one long look (`digest_eq_transitions`), and what that reports can be read off without following
what is known: each time that a run is seen is compared with the last time before (`reported_eq`).
-/

namespace RunWatch.Watch

/-- Transitions that lead from a status to another one, each of them from where the last one has led to. -/
inductive Chained : Option RunStatus → List Transition → Option RunStatus → Prop where
  | rest (status : Option RunStatus) : Chained status [] status
  | link {t : Transition} {ts : List Transition} {last : Option RunStatus} (hmoves : t.was ≠ some t.status)
      (h : Chained (some t.status) ts last) : Chained t.was (t :: ts) last

namespace Known

/-- The status that a run is known to have when some runs have been seen: the one it was last seen with, or else the one
known before. -/
def afterSeeing (known : Known) (seen : List Run) (id : Uuid) : Option RunStatus :=
  (lastSeen id seen).or (known.find? id)

variable {known : Known} {seen later : List Run} {id : Uuid} {r : Run}

theorem afterSeeing_cons (known : Known) (r : Run) (seen : List Run) (id : Uuid) :
    known.afterSeeing (r :: seen) id = (known.set r.id r.status).afterSeeing seen id := by
  have hseen : lastSeen id (r :: seen) = (lastSeen id seen).or (if r.id = id then some r.status else none) := by
    by_cases h : r.id = id
    · simp [lastSeen, List.find?_append, h]
    · simp [lastSeen, List.find?_append, h]
  rw [afterSeeing, afterSeeing, hseen, find?_set, Option.or_assoc]
  by_cases h : r.id = id
  · rw [if_pos h, if_pos h, Option.some_or]
  · rw [if_neg h, if_neg h, Option.none_or]

theorem find?_transitions (known : Known) (runs : List Run) (id : Uuid) :
    (transitions known runs).1.find? id = known.afterSeeing runs id := by
  induction runs generalizing known with
  | nil => rfl
  | cons r runs ih => rw [afterSeeing_cons, ← ih, transitions_cons]

theorem lastSeen_eq_none : lastSeen id seen = none ↔ ∀ r ∈ seen, r.id ≠ id := by
  simp [lastSeen]

theorem afterSeeing_of_unseen (h : ∀ r ∈ seen, r.id ≠ id) : known.afterSeeing seen id = known.find? id := by
  rw [afterSeeing, lastSeen_eq_none.mpr h, Option.none_or]

theorem afterSeeing_of_last (hid : r.id = id) (hlater : ∀ r' ∈ later, r'.id ≠ id) (known : Known) (seen : List Run) :
    known.afterSeeing (seen ++ r :: later) id = some r.status := by
  induction seen generalizing known with
  | nil => rw [List.nil_append, afterSeeing_cons, afterSeeing_of_unseen hlater, find?_set, if_pos hid]
  | cons r' seen ih => rw [List.cons_append, afterSeeing_cons, ih]

end Known

/-! ## What is reported -/

/-- The transition of a run, seen after others. -/
def transitionAfter? (known : Known) (past : List Run) (r : Run) : Option Transition :=
  if known.afterSeeing past r.id = some r.status then none
  else some ⟨r.id, r.key, known.afterSeeing past r.id, r.status⟩

theorem reported_eq (known : Known) (runs : List Run) :
    (transitions known runs).2 = (withPast runs).filterMap fun p => transitionAfter? known p.1 p.2 := by
  induction runs generalizing known with
  | nil => rfl
  | cons r runs ih =>
    have hfirst : transitionAfter? known [] r = transition? known r := rfl
    have hlater : ∀ past r', transitionAfter? known (r :: past) r' =
        transitionAfter? (known.set r.id r.status) past r' := by
      intro past r'
      rw [transitionAfter?, transitionAfter?, Known.afterSeeing_cons]
    rw [transitions_cons, ih, withPast_cons, List.filterMap_cons, List.filterMap_map, hfirst]
    simp only [Function.comp_def, hlater]
    cases transition? known r <;> rfl

/-! ## The chain of a run -/

theorem chained_transitions (known : Known) (runs : List Run) (id : Uuid) :
    Chained (known.find? id) ((transitions known runs).2.filter fun t => t.run = id)
      ((transitions known runs).1.find? id) := by
  induction runs generalizing known with
  | nil => exact .rest _
  | cons r runs ih =>
    have hrest := ih (known.set r.id r.status)
    rw [transitions_cons, List.filter_append]
    by_cases hid : r.id = id
    · subst hid
      rw [Known.find?_set, if_pos rfl] at hrest
      by_cases hsame : known.find? r.id = some r.status
      · rw [transition?, if_pos hsame, hsame]
        exact hrest
      · have hown : (transition? known r).toList.filter (fun t => t.run = r.id) =
            [⟨r.id, r.key, known.find? r.id, r.status⟩] := by
          simp [transition?, hsame]
        rw [hown]
        exact Chained.link (t := ⟨r.id, r.key, known.find? r.id, r.status⟩) hsame hrest
    · rw [Known.find?_set, if_neg hid] at hrest
      have hother : (transition? known r).toList.filter (fun t => t.run = id) = [] := by
        unfold transition?
        split
        · rfl
        · simp [hid]
      rw [hother]
      exact hrest

/-- However often the runs are looked at, and whichever of them each look shows, every time that a run has another
status than was known of it is reported, with the key that it had then, and nothing else is.  The transitions of one run
lead from the status known at first to the one known in the end, which is the status that the run was last seen with, or
the one from before if it was never seen. -/
theorem transitions_chained (known : Known) (pages : List (Page Run)) :
    let final := (digest known pages).1
    let reported := (digest known pages).2.flatten
    let seen := pages.flatMap Page.items
    reported = ((withPast seen).filterMap fun p => transitionAfter? known p.1 p.2) ∧
    ∀ id, Chained (known.find? id) (reported.filter fun t => t.run = id) (final.find? id) ∧
      (∀ before r later, seen = before ++ r :: later → r.id = id → (∀ r' ∈ later, r'.id ≠ id) →
        final.find? id = some r.status) ∧
      ((∀ r ∈ seen, r.id ≠ id) → final.find? id = known.find? id) := by
  intro final reported seen
  obtain ⟨hfinal, hreported⟩ : final = (transitions known seen).1 ∧ reported = (transitions known seen).2 :=
    Prod.mk.inj (digest_eq_transitions known pages)
  rw [hfinal, hreported]
  refine ⟨reported_eq known seen, fun id => ⟨chained_transitions known seen id, ?_, fun hunseen => ?_⟩⟩
  · intro before r later hsplit hid hlater
    rw [Known.find?_transitions, hsplit, Known.afterSeeing_of_last hid hlater]
  · rw [Known.find?_transitions, Known.afterSeeing_of_unseen hunseen]

/-- A run goes on after it has failed, and fails again under another key while a look misses it. -/
theorem failure_chained_to_next_failure :
    let id (d : Fin 16) : Uuid := ⟨List.replicate 32 d, rfl⟩
    let run (d : Fin 16) (key : String) (status : RunStatus) : Run :=
      ⟨id d, key, none, ⟨id 9, none, none, none⟩, status, none, none, [], [], []⟩
    let pages : List (Page Run) :=
      [⟨[run 1 "load" .failed, run 2 "sort" .pending, run 1 "load" .running], 2⟩, ⟨[run 2 "sort" .pending], 2⟩,
        ⟨[run 1 "load again" .failed], 2⟩]
    let known : Known := [(id 1, .failed)]
    let final := (digest known pages).1
    Chained (some .failed)
        [⟨id 1, "load", some .failed, .running⟩, ⟨id 1, "load again", some .running, .failed⟩] (some .failed) ∧
      final.find? (id 1) = some .failed ∧ final.find? (id 3) = none := by
  intro id run pages known final
  obtain ⟨-, hchains⟩ := transitions_chained known pages
  obtain ⟨hchained, hlast, -⟩ := hchains (id 1)
  obtain ⟨-, -, hunseen⟩ := hchains (id 3)
  have hfinal : final.find? (id 1) = some .failed :=
    hlast [run 1 "load" .failed, run 2 "sort" .pending, run 1 "load" .running, run 2 "sort" .pending]
      (run 1 "load again" .failed) [] rfl rfl (List.forall_mem_nil _)
  refine ⟨?_, hfinal, hunseen (by decide +kernel)⟩
  have hreported : ((digest known pages).2.flatten.filter fun t => t.run = id 1) =
      [⟨id 1, "load", some .failed, .running⟩, ⟨id 1, "load again", some .running, .failed⟩] := by
    decide
  rw [hreported, hfinal] at hchained
  exact hchained

end RunWatch.Watch
