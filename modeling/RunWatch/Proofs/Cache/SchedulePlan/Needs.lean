import Mathlib.Data.List.Forall2
import RunWatch.Proofs.Cache.SchedulePlan

/-!
# What a schedule plan needs

A plan looks at one expectation after the other, and at each of them in the first schedule and the first draft alone.
`Settled` says when these two ask for nothing, and `Needs` which step they ask for otherwise.  The steps of a plan are
needed by the expectations that are not settled, one by each and in their order (`forall₂_needs`).

A step names a schedule by its identifier, and always one that is not `Spared` (`exists_target_iff`).  Nothing keeps two
schedules of a component from sharing an identifier, and then a step meant for the one also hits the other: so a schedule
that is spared can be named all the same, though only along with one that is not.
-/

namespace RunWatch

namespace SchedulePlan

open ScheduleStep

/-- The first schedule and the first draft of an expectation are both missing, or they match. -/
inductive Settled (c : Component) (drafts : List ScheduleDraft) (e : Expectation) : Prop where
  | missing (hs : c.schedule? e = none) (hd : SchedulePlan.draft? drafts e = none)
  | matching {s : Schedule} {d : ScheduleDraft} (hs : c.schedule? e = some s)
      (hd : SchedulePlan.draft? drafts e = some d) (hfits : d.fits s = true)

/-- The step that brings an expectation in line: its first draft is created if no schedule has the expectation, and takes
the place of the first schedule that has, unless they match; if there is no draft, the first schedule goes. -/
inductive Needs (c : Component) (drafts : List ScheduleDraft) (e : Expectation) : ScheduleStep → Prop where
  | create {d : ScheduleDraft} (hs : ∀ s ∈ c.schedules, s.expectation ≠ e)
      (hd : SchedulePlan.draft? drafts e = some d) : Needs c drafts e (.create d)
  | replace {s : Schedule} {d : ScheduleDraft} (hs : c.schedule? e = some s)
      (hd : SchedulePlan.draft? drafts e = some d) (hfits : d.fits s = false) : Needs c drafts e (.replace s.id d)
  | delete {s : Schedule} (hs : c.schedule? e = some s) (hd : ∀ d ∈ drafts, d.expectation ≠ e) :
      Needs c drafts e (.delete s.id)

/-- Whether nothing asks for a schedule to change: its expectation is not allowed, or it matches the first draft for
it. -/
def Spared (c : Component) (drafts : List ScheduleDraft) (s : Schedule) : Prop :=
  s.expectation ∉ c.type.allowed ∨ ∃ d, SchedulePlan.draft? drafts s.expectation = some d ∧ d.fits s = true

variable {c : Component} {drafts : List ScheduleDraft} {e : Expectation} {step : ScheduleStep} {steps : List ScheduleStep}

theorem schedule?_eq_none : c.schedule? e = none ↔ ∀ s ∈ c.schedules, s.expectation ≠ e := by
  simp [Component.schedule?]

theorem planned_eq_none : planned c drafts e = none ↔ Settled c drafts e := by
  refine step?_eq_none.trans ⟨?_, ?_⟩
  · rintro (⟨hs, hd⟩ | ⟨s, d, hs, hd, hfits⟩)
    · exact .missing hs hd
    · exact .matching hs hd hfits
  · rintro (⟨hs, hd⟩ | ⟨hs, hd, hfits⟩)
    · exact .inl ⟨hs, hd⟩
    · exact .inr ⟨_, _, hs, hd, hfits⟩

theorem planned_eq_some : planned c drafts e = some step ↔ Needs c drafts e step := by
  refine step?_eq_some.trans ⟨?_, ?_⟩
  · rintro (⟨d, hs, hd, rfl⟩ | ⟨s, d, hs, hd, hfits, rfl⟩ | ⟨s, hs, hd, rfl⟩)
    · exact .create (schedule?_eq_none.mp hs) hd
    · exact .replace hs hd hfits
    · exact .delete hs (draft?_eq_none.mp hd)
  · rintro (⟨hs, hd⟩ | ⟨hs, hd, hfits⟩ | ⟨hs, hd⟩)
    · exact .inl ⟨_, schedule?_eq_none.mpr hs, hd, rfl⟩
    · exact .inr (.inl ⟨_, _, hs, hd, hfits, rfl⟩)
    · exact .inr (.inr ⟨_, hs, draft?_eq_none.mpr hd, rfl⟩)

instance (c : Component) (drafts : List ScheduleDraft) (e : Expectation) : Decidable (Settled c drafts e) :=
  decidable_of_iff _ planned_eq_none

theorem not_settled_of_needs (h : Needs c drafts e step) : ¬Settled c drafts e := by
  rw [← planned_eq_none, planned_eq_some.mpr h]
  exact Option.some_ne_none step

/-- Of some expectations, those that are not settled get the step that they need. -/
theorem forall₂_needs (c : Component) (drafts : List ScheduleDraft) (es : List Expectation) :
    List.Forall₂ (Needs c drafts) (es.filter fun e => ¬Settled c drafts e) (es.filterMap (planned c drafts)) := by
  induction es with
  | nil => exact .nil
  | cons e es ih =>
    cases hstep : planned c drafts e with
    | none =>
      rw [List.filterMap_cons_none hstep, List.filter_cons_of_neg (by simpa using planned_eq_none.mp hstep)]
      exact ih
    | some step =>
      have hneeds : Needs c drafts e step := planned_eq_some.mp hstep
      rw [List.filterMap_cons_some hstep, List.filter_cons_of_pos (by simpa using not_settled_of_needs hneeds)]
      exact .cons hneeds ih

/-- The first schedule of an allowed expectation is spared if the expectation is settled, and only then. -/
theorem spared_iff_settled {s : Schedule} (he : e ∈ c.type.allowed) (hs : c.schedule? e = some s) :
    Spared c drafts s ↔ Settled c drafts e := by
  obtain rfl := expectation_of_schedule? hs
  constructor
  · rintro (hnot | ⟨d, hd, hfits⟩)
    · exact absurd he hnot
    · exact .matching hs hd hfits
  · rintro (⟨hnone, -⟩ | ⟨hs', hd, hfits⟩)
    · rw [hs] at hnone
      cases hnone
    · obtain rfl := Option.some.inj (hs.symm.trans hs')
      exact .inr ⟨_, hd, hfits⟩

theorem mem_steps_iff (hplan : plan c drafts = .ok steps) :
    step ∈ steps ↔ ∃ e ∈ c.type.allowed, Needs c drafts e step := by
  obtain ⟨-, rfl⟩ := plan_eq_ok.mp hplan
  simp only [List.mem_filterMap, planned_eq_some]

/-- A step that names a schedule is needed by an expectation that has this identifier in its first schedule. -/
theorem Needs.target (h : Needs c drafts e step) {id : Uuid} (hid : step.target? = some id) :
    ∃ s, c.schedule? e = some s ∧ s.id = id :=
  target_planned (planned_eq_some.mpr h) hid

/-- The step that an expectation needs names its first schedule, if it has one. -/
theorem target_of_needs {s : Schedule} (h : Needs c drafts e step) (hs : c.schedule? e = some s) :
    step.target? = some s.id := by
  cases h with
  | create hnone hd => exact absurd (expectation_of_schedule? hs) (hnone s (List.mem_of_find?_eq_some hs))
  | replace hs' hd hfits =>
    obtain rfl := Option.some.inj (hs.symm.trans hs')
    rfl
  | delete hs' hd =>
    obtain rfl := Option.some.inj (hs.symm.trans hs')
    rfl

/-- The identifiers that steps name are those of the schedules which come first for an allowed expectation and are not
spared. -/
theorem exists_target_iff (hplan : plan c drafts = .ok steps) (id : Uuid) :
    (∃ step ∈ steps, step.target? = some id) ↔
      ∃ e ∈ c.type.allowed, ∃ s, c.schedule? e = some s ∧ s.id = id ∧ ¬Spared c drafts s := by
  constructor
  · rintro ⟨step, hstep, hid⟩
    obtain ⟨e, he, hneeds⟩ := (mem_steps_iff hplan).mp hstep
    obtain ⟨s, hs, hid'⟩ := hneeds.target hid
    exact ⟨e, he, s, hs, hid', fun hspared => not_settled_of_needs hneeds ((spared_iff_settled he hs).mp hspared)⟩
  · rintro ⟨e, he, s, hs, rfl, hnot⟩
    have hunsettled : ¬Settled c drafts e := fun h => hnot ((spared_iff_settled he hs).mpr h)
    obtain ⟨step, hstep⟩ := Option.ne_none_iff_exists'.mp (mt planned_eq_none.mp hunsettled)
    have hneeds : Needs c drafts e step := planned_eq_some.mp hstep
    exact ⟨step, (mem_steps_iff hplan).mpr ⟨e, he, hneeds⟩, target_of_needs hneeds hs⟩

theorem plan_eq_error : (∃ fault, plan c drafts = .error fault) ↔ ∃ d ∈ drafts, d.expectation ∉ c.type.allowed := by
  constructor
  · rintro ⟨fault, hfault⟩
    by_contra hnone
    have hall : ∀ d ∈ drafts, d.expectation ∈ c.type.allowed := fun d hd => by_contra fun hnot => hnone ⟨d, hd, hnot⟩
    rw [plan_eq_ok.mpr ⟨hall, rfl⟩] at hfault
    cases hfault
  · rintro ⟨d, hd, hnot⟩
    cases hplan : plan c drafts with
    | error fault => exact ⟨fault, rfl⟩
    | ok steps => exact absurd ((plan_eq_ok.mp hplan).1 d hd) hnot

/-- A plan fails exactly if some draft is for an expectation that is not allowed.  Otherwise it has one step for each
allowed expectation that is not settled, in their order, and that is the step it needs: so it is empty exactly if all of
them are settled.  The identifiers that steps name are exactly those of the schedules which come first for an allowed
expectation and are not spared; so a schedule that is spared is only named where such another one shares its
identifier. -/
theorem plan_changes_what_is_needed (c : Component) (drafts : List ScheduleDraft) :
    ((∃ fault, plan c drafts = .error fault) ↔ ∃ d ∈ drafts, d.expectation ∉ c.type.allowed) ∧
    ∀ steps, plan c drafts = .ok steps →
      (c.type.allowed.Nodup ∧
        List.Forall₂ (Needs c drafts) (c.type.allowed.filter fun e => ¬Settled c drafts e) steps) ∧
      (steps = [] ↔ ∀ e ∈ c.type.allowed, Settled c drafts e) ∧
      (∀ id, (∃ step ∈ steps, step.target? = some id) ↔
        ∃ e ∈ c.type.allowed, ∃ s, c.schedule? e = some s ∧ s.id = id ∧ ¬Spared c drafts s) ∧
      ∀ s, Spared c drafts s → ∀ step ∈ steps, step.target? = some s.id →
        ∃ s' ∈ c.schedules, s' ≠ s ∧ s'.id = s.id ∧ ¬Spared c drafts s' := by
  refine ⟨plan_eq_error, fun steps hplan => ?_⟩
  obtain ⟨-, hsteps⟩ := plan_eq_ok.mp hplan
  refine ⟨⟨c.type.nodup_allowed, ?_⟩, ?_, exists_target_iff hplan, fun s hspared step hstep hid => ?_⟩
  · rw [hsteps]
    exact forall₂_needs c drafts c.type.allowed
  · rw [hsteps, List.filterMap_eq_nil_iff]
    exact forall₂_congr fun e _ => planned_eq_none
  · obtain ⟨e, -, s', hs', hid', hnot⟩ := (exists_target_iff hplan s.id).mp ⟨step, hstep, hid⟩
    exact ⟨s', List.mem_of_find?_eq_some hs', fun hsame => hnot (hsame ▸ hspared), hid', hnot⟩

/-- Two schedules for the start of a pipeline, of which the second matches the draft for it, one for its end, and one
that no pipeline may have: the first and the third are changed, and the others are not named. -/
theorem matching_second_start_spared :
    let id (d : Fin 16) : Uuid := ⟨List.replicate 32 d, rfl⟩
    let s (d : Fin 16) (time : String) (e : Expectation) : Schedule := ⟨id d, none, time, none, none, e⟩
    let c : Component :=
      ⟨⟨id 0, "orders", none, none, none, true⟩, .batchPipeline, "orders", none, none, none,
        [s 1 "0 6 * * *" .batchStart, s 2 "0 7 * * *" .batchStart, s 3 "0 8 * * *" .batchEnd,
          s 4 "0 9 * * *" .datasetArrival]⟩
    let draft (time : String) : ScheduleDraft := ⟨time, none, none, .batchStart⟩
    let drafts : List ScheduleDraft := [draft "0 7 * * *", draft "0 6 * * *"]
    let steps : List ScheduleStep := [.replace (id 1) (draft "0 7 * * *"), .delete (id 3)]
    plan c drafts = .ok steps ∧ Spared c drafts (s 2 "0 7 * * *" .batchStart) ∧
      (∀ step ∈ steps, step.target? ≠ some (id 2)) ∧ ¬∀ e ∈ c.type.allowed, Settled c drafts e := by
  intro id s c draft drafts steps
  have hplan : plan c drafts = .ok steps := by decide
  have hspared : Spared c drafts (s 2 "0 7 * * *" .batchStart) := .inr ⟨draft "0 7 * * *", rfl, by decide⟩
  have hown : ∀ s' ∈ c.schedules, s'.id = id 2 → s' = s 2 "0 7 * * *" .batchStart := by decide
  obtain ⟨-, hsettled, -, hspares⟩ := (plan_changes_what_is_needed c drafts).2 steps hplan
  refine ⟨hplan, hspared, fun step hstep hid => ?_, fun h => absurd (hsettled.mpr h) (List.cons_ne_nil _ _)⟩
  obtain ⟨s', hs', hne, hid', -⟩ := hspares _ hspared step hstep hid
  exact hne (hown s' hs' hid')

/-- The schedule for the start of a pipeline matches its draft, and the one for the end has no draft but the same
identifier: the only step names this identifier, and carried out it takes both of them away. -/
theorem matching_start_named_with_end :
    let id (d : Fin 16) : Uuid := ⟨List.replicate 32 d, rfl⟩
    let s (time : String) (e : Expectation) : Schedule := ⟨id 1, none, time, none, none, e⟩
    let c : Component :=
      ⟨⟨id 0, "orders", none, none, none, true⟩, .batchPipeline, "orders", none, none, none,
        [s "0 7 * * *" .batchStart, s "0 8 * * *" .batchEnd]⟩
    let drafts : List ScheduleDraft := [⟨"0 7 * * *", none, none, .batchStart⟩]
    let start := s "0 7 * * *" .batchStart
    (∃ d, SchedulePlan.draft? drafts start.expectation = some d ∧ d.fits start = true) ∧ start ∈ c.schedules ∧
      plan c drafts = .ok [.delete start.id] ∧ carryOutAll (fun _ => id 9) [.delete start.id] c.schedules = [] := by
  intro id s c drafts start
  exact ⟨⟨_, rfl, by decide⟩, by decide, by decide, by decide⟩

end SchedulePlan

end RunWatch
