import Mathlib.Data.List.Nodup
import RunWatch.Cache.SchedulePlan

/-!
# What a schedule plan leaves behind

A plan is made from the first schedule and the first draft of each expectation, and this module says what
carrying it out makes of all the schedules.  A step only ever touches the schedules of its own expectation
(`ScheduleStep.Concerns`), so the steps of a plan can be looked at one expectation at a time
(`schedulesFor_carryOutAll`).  The main statement, `inLine_iff_no_further_schedule`, is that the first
schedule of an expectation comes in line with the drafts and the further ones stay as they are.
-/

namespace RunWatch

/-- The schedules for an expectation. -/
def schedulesFor (e : Expectation) (ss : List Schedule) : List Schedule :=
  ss.filter fun s => s.expectation = e

/-- The schedules for an expectation are the ones that drafts ask for: a single one that fits if there is a
draft for it, and none if there is no draft. -/
structure InLine (drafts : List ScheduleDraft) (e : Expectation) (ss : List Schedule) : Prop where
  drafted : ∀ d ∈ drafts, d.expectation = e → ∃ s, schedulesFor e ss = [s] ∧ d.fits s
  undrafted : (∀ d ∈ drafts, d.expectation ≠ e) → schedulesFor e ss = []

theorem ComponentType.nodup_allowed (t : ComponentType) : t.allowed.Nodup := by
  cases t <;> decide

theorem ScheduleDraft.fits_toSchedule (d : ScheduleDraft) (id : Uuid) (component : Option Uuid) :
    d.fits (d.toSchedule id component) = true := by
  simp [fits, toSchedule]

namespace ScheduleStep

/-- The schedules of a component after some steps; `newId` is the identifier that the schedule created by a
step gets. -/
def carryOutAll (newId : ScheduleStep → Uuid) (steps : List ScheduleStep) (ss : List Schedule) :
    List Schedule :=
  steps.foldl (fun ss step => step.carryOut (newId step) ss) ss

@[simp] theorem carryOutAll_nil (newId : ScheduleStep → Uuid) (ss : List Schedule) :
    carryOutAll newId [] ss = ss := rfl

@[simp] theorem carryOutAll_cons (newId : ScheduleStep → Uuid) (step : ScheduleStep)
    (steps : List ScheduleStep) (ss : List Schedule) :
    carryOutAll newId (step :: steps) ss = carryOutAll newId steps (step.carryOut (newId step) ss) := rfl

/-- The identifier of the schedule that a step changes. -/
def target? : ScheduleStep → Option Uuid
  | create _ => none
  | replace id _ => some id
  | delete id => some id

/-- The draft that a step puts into effect. -/
def draft? : ScheduleStep → Option ScheduleDraft
  | create d => some d
  | replace _ d => some d
  | delete _ => none

/-- A step that has to do with one expectation only. -/
structure Concerns (e : Expectation) (ss : List Schedule) (step : ScheduleStep) : Prop where
  draft : ∀ d, step.draft? = some d → d.expectation = e
  target : ∀ s ∈ ss, step.target? = some s.id → s.expectation = e

variable {e e' : Expectation} {ss : List Schedule} {step step' : ScheduleStep}

/-- A schedule after a step is one from before it, or one that carries the draft of the step. -/
theorem mem_carryOut {newId : Uuid} {s : Schedule} (h : s ∈ step.carryOut newId ss) :
    s ∈ ss ∨ (∃ d, step.draft? = some d ∧ s.expectation = d.expectation) ∧
      (s.id = newId ∨ ∃ old ∈ ss, old.id = s.id ∧ step.target? = some old.id) := by
  cases step with
  | create d =>
    rcases List.mem_append.mp h with h | h
    · exact .inl h
    · rw [List.mem_singleton.mp h]
      exact .inr ⟨⟨d, rfl, rfl⟩, .inl rfl⟩
  | replace id d =>
    obtain ⟨old, hold, rfl⟩ := List.mem_map.mp h
    by_cases hid : old.id = id
    · rw [if_pos hid]
      exact .inr ⟨⟨d, rfl, rfl⟩, .inr ⟨old, hold, rfl, by rw [hid]; rfl⟩⟩
    · rw [if_neg hid]
      exact .inl hold
  | delete id => exact .inl (List.mem_filter.mp h).1

/-- What a step concerns does not change when a step for something else is carried out. -/
theorem Concerns.carryOut (h' : Concerns e' ss step') (h : Concerns e ss step) (hne : e ≠ e') {newId : Uuid}
    (hnew : step'.target? ≠ some newId) : Concerns e' (step.carryOut newId ss) step' := by
  refine ⟨h'.draft, fun s hs htarget => ?_⟩
  rcases mem_carryOut hs with hs | ⟨-, hid | ⟨old, hold, hid, hstep⟩⟩
  · exact h'.target s hs htarget
  · rw [hid] at htarget
    exact absurd htarget hnew
  · -- The schedule would be the target of both steps, which concern different expectations.
    have he : old.expectation = e := h.target old hold hstep
    have he' : old.expectation = e' := h'.target old hold (by rw [hid, htarget])
    exact absurd (he.symm.trans he') hne

/-- Replacing a schedule by one for the same expectation commutes with looking at one expectation. -/
theorem Concerns.schedulesFor_replace {id : Uuid} {d : ScheduleDraft} (h : Concerns e ss (.replace id d))
    (newId : Uuid) (e' : Expectation) :
    schedulesFor e' ((replace id d).carryOut newId ss) = (replace id d).carryOut newId (schedulesFor e' ss) := by
  unfold schedulesFor ScheduleStep.carryOut
  rw [List.filter_map]
  refine congrArg _ (List.filter_congr fun s hs => ?_)
  by_cases hid : s.id = id
  · have hs : s.expectation = e := h.target s hs (by rw [hid]; rfl)
    have hd : d.expectation = e := h.draft d rfl
    simp [hid, ScheduleDraft.toSchedule, hs, hd]
  · simp [hid]

theorem schedulesFor_delete (id newId : Uuid) (e' : Expectation) (ss : List Schedule) :
    schedulesFor e' ((delete id).carryOut newId ss) = (delete id).carryOut newId (schedulesFor e' ss) := by
  simp only [schedulesFor, ScheduleStep.carryOut, List.filter_filter, Bool.and_comm]

/-- A step does to the schedules for its own expectation what it does to all. -/
theorem Concerns.schedulesFor_self (h : Concerns e ss step) (newId : Uuid) :
    schedulesFor e (step.carryOut newId ss) = step.carryOut newId (schedulesFor e ss) := by
  cases step with
  | create d =>
    have hd : d.expectation = e := h.draft d rfl
    simp [schedulesFor, ScheduleStep.carryOut, ScheduleDraft.toSchedule, hd]
  | replace id d => exact h.schedulesFor_replace newId e
  | delete id => exact schedulesFor_delete id newId e ss

/-- A step does not touch the schedules for other expectations. -/
theorem Concerns.schedulesFor_of_ne (h : Concerns e ss step) (hne : e ≠ e') (newId : Uuid) :
    schedulesFor e' (step.carryOut newId ss) = schedulesFor e' ss := by
  have htarget : ∀ s ∈ schedulesFor e' ss, step.target? ≠ some s.id := by
    intro s hs hid
    obtain ⟨hs, he'⟩ := List.mem_filter.mp hs
    exact hne ((h.target s hs hid).symm.trans (of_decide_eq_true he'))
  cases step with
  | create d =>
    have hd : d.expectation ≠ e' := by rw [h.draft d rfl]; exact hne
    simp [schedulesFor, ScheduleStep.carryOut, ScheduleDraft.toSchedule, hd]
  | replace id d =>
    have hsame : ∀ s ∈ schedulesFor e' ss, (if s.id = id then d.toSchedule s.id s.component else s) = s :=
      fun s hs => if_neg fun hid => htarget s hs (by rw [hid]; rfl)
    rw [h.schedulesFor_replace newId e']
    exact (List.map_congr_left hsame).trans (List.map_id _)
  | delete id =>
    rw [schedulesFor_delete id newId e' ss]
    refine List.filter_eq_self.mpr fun s hs => ?_
    have hid : s.id ≠ id := fun hid => htarget s hs (by rw [hid]; rfl)
    simp [hid]

end ScheduleStep

namespace SchedulePlan

open ScheduleStep

/-- The steps planned for different expectations do not get in each other's way: the schedules for one of
them change as the step planned for it says. -/
theorem schedulesFor_carryOutAll {newId : ScheduleStep → Uuid} {planned : Expectation → Option ScheduleStep}
    {es : List Expectation} {ss : List Schedule} (hes : es.Nodup)
    (hconcerns : ∀ e ∈ es, ∀ step, planned e = some step → Concerns e ss step)
    (hnew : ∀ e ∈ es, ∀ step, planned e = some step → ∀ other, step.target? ≠ some (newId other))
    (e : Expectation) :
    schedulesFor e (carryOutAll newId (es.filterMap planned) ss) =
      if e ∈ es then carryOutAll newId (planned e).toList (schedulesFor e ss) else schedulesFor e ss := by
  induction es generalizing ss with
  | nil => simp
  | cons e₁ es ih =>
    obtain ⟨hfirst, hrest⟩ := List.nodup_cons.mp hes
    have hnew' : ∀ e ∈ es, ∀ step, planned e = some step → ∀ other, step.target? ≠ some (newId other) :=
      fun e he => hnew e (List.mem_cons_of_mem e₁ he)
    cases hstep : planned e₁ with
    | none =>
      rw [List.filterMap_cons_none hstep,
        ih hrest (fun e he => hconcerns e (List.mem_cons_of_mem e₁ he)) hnew']
      by_cases he : e = e₁
      · subst he
        simp [hfirst, hstep]
      · simp [he]
    | some step =>
      have hstep₁ : Concerns e₁ ss step := hconcerns e₁ List.mem_cons_self step hstep
      have hafter : ∀ e' ∈ es, ∀ step', planned e' = some step' →
          Concerns e' (step.carryOut (newId step) ss) step' := by
        intro e' he' step' hstep'
        have hne : e₁ ≠ e' := fun h => hfirst (h ▸ he')
        exact (hconcerns e' (List.mem_cons_of_mem e₁ he') step' hstep').carryOut hstep₁ hne
          (hnew' e' he' step' hstep' step)
      rw [List.filterMap_cons_some hstep, carryOutAll_cons, ih hrest hafter hnew']
      by_cases he : e = e₁
      · subst he
        simp [hfirst, hstep, hstep₁.schedulesFor_self]
      · have hne : e₁ ≠ e := fun h => he h.symm
        simp [he, hstep₁.schedulesFor_of_ne hne]

/-! ## The plan of a component -/

/-- A step is needed unless schedule and draft are both missing, or match. -/
theorem step?_eq_none {existing : Option Schedule} {draft : Option ScheduleDraft} :
    step? existing draft = none ↔
      (existing = none ∧ draft = none) ∨
      ∃ s d, existing = some s ∧ draft = some d ∧ d.fits s = true := by
  cases existing <;> cases draft <;> simp [step?]

/-- All that a step can be. -/
theorem step?_eq_some {existing : Option Schedule} {draft : Option ScheduleDraft} {step : ScheduleStep} :
    step? existing draft = some step ↔
      (∃ d, existing = none ∧ draft = some d ∧ step = .create d) ∨
      (∃ s d, existing = some s ∧ draft = some d ∧ d.fits s = false ∧ step = .replace s.id d) ∨
      ∃ s, existing = some s ∧ draft = none ∧ step = .delete s.id := by
  cases existing <;> cases draft <;> simp [step?, @eq_comm _ step]

/-- The step planned for an expectation. -/
def planned (c : Component) (drafts : List ScheduleDraft) (e : Expectation) : Option ScheduleStep :=
  step? (c.schedule? e) (SchedulePlan.draft? drafts e)

/-- A plan is accepted if every draft is for an allowed expectation, and consists of what is planned for each
of them. -/
theorem plan_eq_ok {c : Component} {drafts : List ScheduleDraft} {steps : List ScheduleStep} :
    plan c drafts = .ok steps ↔
      (∀ d ∈ drafts, d.expectation ∈ c.type.allowed) ∧ steps = c.type.allowed.filterMap (planned c drafts) := by
  unfold plan
  cases hfind : drafts.find? fun d => !c.type.allowed.contains d.expectation with
  | none =>
    have hall : ∀ d ∈ drafts, d.expectation ∈ c.type.allowed := by
      intro d hd
      have hnot := List.find?_eq_none.mp hfind d hd
      simpa using hnot
    constructor
    · intro h
      exact ⟨hall, (Except.ok.inj h).symm⟩
    · rintro ⟨-, rfl⟩
      rfl
  | some d =>
    have hd : d.expectation ∉ c.type.allowed := by simpa using List.find?_some hfind
    constructor
    · intro h
      cases h
    · rintro ⟨hall, -⟩
      exact absurd (hall d (List.mem_of_find?_eq_some hfind)) hd

theorem draft?_eq_none {drafts : List ScheduleDraft} {e : Expectation} :
    SchedulePlan.draft? drafts e = none ↔ ∀ d ∈ drafts, d.expectation ≠ e := by
  simp [SchedulePlan.draft?]

/-- When no expectation has two drafts, a draft is the first one for its expectation. -/
theorem draft?_eq_some {drafts : List ScheduleDraft} (h : (drafts.map (·.expectation)).Nodup)
    {d : ScheduleDraft} (hd : d ∈ drafts) : SchedulePlan.draft? drafts d.expectation = some d := by
  obtain ⟨d', hd'⟩ : ∃ d', SchedulePlan.draft? drafts d.expectation = some d' := by
    refine Option.ne_none_iff_exists'.mp fun hnone => ?_
    exact draft?_eq_none.mp hnone d hd rfl
  have hmem : d' ∈ drafts := List.mem_of_find?_eq_some hd'
  have hexpectation : d'.expectation = d.expectation := by simpa using List.find?_some hd'
  rw [hd', List.inj_on_of_nodup_map h hmem hd hexpectation]

theorem expectation_of_draft? {drafts : List ScheduleDraft} {e : Expectation} {d : ScheduleDraft}
    (h : SchedulePlan.draft? drafts e = some d) : d.expectation = e := by
  simpa using List.find?_some h

theorem expectation_of_schedule? {c : Component} {e : Expectation} {s : Schedule} (h : c.schedule? e = some s) :
    s.expectation = e := by
  simpa using List.find?_some h

theorem schedule?_eq_head? (c : Component) (e : Expectation) :
    c.schedule? e = (schedulesFor e c.schedules).head? :=
  List.head?_filter.symm

/-- The schedule that a planned step names is the first one for the expectation. -/
theorem target_planned {c : Component} {drafts : List ScheduleDraft} {e : Expectation} {step : ScheduleStep}
    (h : planned c drafts e = some step) {id : Uuid} (hid : step.target? = some id) :
    ∃ s, c.schedule? e = some s ∧ s.id = id := by
  obtain ⟨d, -, -, rfl⟩ | ⟨s, d, hs, -, -, rfl⟩ | ⟨s, hs, -, rfl⟩ := step?_eq_some.mp h
  · cases hid
  · exact ⟨s, hs, Option.some.inj hid⟩
  · exact ⟨s, hs, Option.some.inj hid⟩

theorem draft_planned {c : Component} {drafts : List ScheduleDraft} {e : Expectation} {step : ScheduleStep}
    (h : planned c drafts e = some step) {d : ScheduleDraft} (hd : step.draft? = some d) :
    SchedulePlan.draft? drafts e = some d := by
  obtain ⟨d', -, hdraft, rfl⟩ | ⟨s, d', -, hdraft, -, rfl⟩ | ⟨s, -, -, rfl⟩ := step?_eq_some.mp h
  · exact hdraft.trans hd
  · exact hdraft.trans hd
  · cases hd

/-- Where identifiers are distinct, every planned step concerns its own expectation. -/
theorem concerns_planned {c : Component} (hids : (c.schedules.map (·.id)).Nodup) {drafts : List ScheduleDraft}
    {e : Expectation} {step : ScheduleStep} (h : planned c drafts e = some step) :
    Concerns e c.schedules step := by
  refine ⟨fun d hd => expectation_of_draft? (draft_planned h hd), fun s hs htarget => ?_⟩
  obtain ⟨first, hfirst, hid⟩ := target_planned h htarget
  have hmem : first ∈ c.schedules := List.mem_of_find?_eq_some hfirst
  rw [← List.inj_on_of_nodup_map hids hmem hs hid]
  exact expectation_of_schedule? hfirst

/-- The step for some schedules and a draft brings the first of them in line with the draft. -/
theorem carryOutAll_step? {own : List Schedule} (hids : (own.map (·.id)).Nodup) (draft : Option ScheduleDraft)
    (newId : ScheduleStep → Uuid) :
    let after := carryOutAll newId (step? own.head? draft).toList own
    (∀ d, draft = some d → ∃ s, d.fits s = true ∧ after = s :: own.tail) ∧
      (draft = none → after = own.tail) := by
  cases own with
  | nil =>
    constructor
    · rintro d rfl
      exact ⟨d.toSchedule (newId (.create d)) none, d.fits_toSchedule _ _, rfl⟩
    · rintro rfl
      rfl
  | cons first rest =>
    have hfirst : first.id ∉ rest.map (·.id) := (List.nodup_cons.mp hids).1
    have hne : ∀ s ∈ rest, s.id ≠ first.id := fun s hs hid => hfirst (List.mem_map.mpr ⟨s, hs, hid⟩)
    constructor
    · rintro d rfl
      by_cases hfits : d.fits first = true
      · exact ⟨first, hfits, by simp [step?, hfits]⟩
      · have hsame : ∀ s ∈ rest, (if s.id = first.id then d.toSchedule s.id s.component else s) = s :=
          fun s hs => if_neg (hne s hs)
        refine ⟨d.toSchedule first.id first.component, d.fits_toSchedule _ _, ?_⟩
        simp [step?, hfits, carryOut, List.map_congr_left hsame]
    · rintro rfl
      simpa [step?, carryOut] using hne

/-! ## Main statement -/

/-- A plan that is accepted brings the first schedule of each allowed expectation in line with the drafts,
creating it or deleting it where it has to, and leaves the further schedules of the expectation as they are.
So the schedules are what the drafts ask for exactly if there was at most one to begin with. -/
theorem inLine_iff_no_further_schedule {c : Component} {drafts : List ScheduleDraft}
    {steps : List ScheduleStep} {newId : ScheduleStep → Uuid} (hdrafts : (drafts.map (·.expectation)).Nodup)
    (hids : (c.schedules.map (·.id)).Nodup) (hnew : ∀ step, newId step ∉ c.schedules.map (·.id))
    (hplan : plan c drafts = .ok steps) :
    ∀ e ∈ c.type.allowed,
      let before := schedulesFor e c.schedules
      let after := carryOutAll newId steps c.schedules
      (∀ d ∈ drafts, d.expectation = e → ∃ s, d.fits s = true ∧ schedulesFor e after = s :: before.tail) ∧
      ((∀ d ∈ drafts, d.expectation ≠ e) → schedulesFor e after = before.tail) ∧
      (InLine drafts e after ↔ before.length ≤ 1) := by
  intro e he before after
  obtain ⟨-, rfl⟩ := plan_eq_ok.mp hplan
  have htargets : ∀ e ∈ c.type.allowed, ∀ step, planned c drafts e = some step →
      ∀ other, step.target? ≠ some (newId other) := by
    intro e _ step hstep other htarget
    obtain ⟨s, hs, hid⟩ := target_planned hstep htarget
    exact hnew other (List.mem_map.mpr ⟨s, List.mem_of_find?_eq_some hs, hid⟩)
  have hafter : schedulesFor e after = carryOutAll newId (planned c drafts e).toList before := by
    have hone := schedulesFor_carryOutAll c.type.nodup_allowed (fun e _ step => concerns_planned hids) htargets e
    rwa [if_pos he] at hone
  have hbefore : (before.map (·.id)).Nodup := hids.sublist (List.filter_sublist.map _)
  obtain ⟨hsome, hnone⟩ := carryOutAll_step? hbefore (SchedulePlan.draft? drafts e) newId
  rw [← schedule?_eq_head?] at hsome hnone
  have hdrafted : ∀ d ∈ drafts, d.expectation = e →
      ∃ s, d.fits s = true ∧ schedulesFor e after = s :: before.tail := by
    rintro d hd rfl
    rw [hafter]
    exact hsome d (draft?_eq_some hdrafts hd)
  have hundrafted : (∀ d ∈ drafts, d.expectation ≠ e) → schedulesFor e after = before.tail := by
    intro hno
    rw [hafter]
    exact hnone (draft?_eq_none.mpr hno)
  have htail : before.tail = [] ↔ before.length ≤ 1 := by
    rw [← List.length_eq_zero_iff, List.length_tail]
    omega
  refine ⟨hdrafted, hundrafted, ?_⟩
  rw [← htail]
  constructor
  · intro hin
    by_cases hd : ∃ d ∈ drafts, d.expectation = e
    · obtain ⟨d, hd, rfl⟩ := hd
      obtain ⟨s, hs, -⟩ := hin.drafted d hd rfl
      obtain ⟨s', -, hs'⟩ := hdrafted d hd rfl
      exact (List.cons.inj (hs'.symm.trans hs)).2
    · have hno : ∀ d ∈ drafts, d.expectation ≠ e := fun d hd' he' => hd ⟨d, hd', he'⟩
      exact (hundrafted hno).symm.trans (hin.undrafted hno)
  · intro hempty
    refine ⟨fun d hd hde => ?_, fun hno => (hundrafted hno).trans hempty⟩
    obtain ⟨s, hfits, hs⟩ := hdrafted d hd hde
    exact ⟨s, by rw [hs, hempty], hfits⟩

/-- Of two schedules for the start of a pipeline the first is replaced, and the one for its end, which
nothing asks for, is deleted. -/
theorem first_start_replaced :
    let id (d : Fin 16) : Uuid := ⟨List.replicate 32 d, rfl⟩
    let s (d : Fin 16) (time : String) (e : Expectation) : Schedule := ⟨id d, none, time, none, none, e⟩
    let c : Component :=
      ⟨⟨id 0, "orders", none, none, none, true⟩, .batchPipeline, "orders", none, none, none,
        [s 1 "0 6 * * *" .batchStart, s 2 "0 7 * * *" .batchEnd, s 3 "0 8 * * *" .batchStart]⟩
    let drafts : List ScheduleDraft := [⟨"30 6 * * *", none, none, .batchStart⟩]
    let steps : List ScheduleStep := [.replace (id 1) ⟨"30 6 * * *", none, none, .batchStart⟩, .delete (id 2)]
    let newId : ScheduleStep → Uuid := fun _ => id 9
    let after := carryOutAll newId steps c.schedules
    (drafts.map (·.expectation)).Nodup ∧ (c.schedules.map (·.id)).Nodup ∧
      (∀ step, newId step ∉ c.schedules.map (·.id)) ∧ plan c drafts = .ok steps ∧
      ¬InLine drafts .batchStart after ∧ InLine drafts .batchEnd after := by
  intro id s c drafts steps newId after
  have hdrafts : (drafts.map (·.expectation)).Nodup := by decide
  have hids : (c.schedules.map (·.id)).Nodup := by decide
  have hnew : ∀ step, newId step ∉ c.schedules.map (·.id) := fun _ => by decide
  have hplan : plan c drafts = .ok steps := by decide
  have hiff := inLine_iff_no_further_schedule hdrafts hids hnew hplan
  refine ⟨hdrafts, hids, hnew, hplan, ?_, ?_⟩
  · exact fun h => absurd ((hiff .batchStart (by decide)).2.2.mp h) (by decide)
  · exact (hiff .batchEnd (by decide)).2.2.mpr (by decide)

/-- Without a draft only the first of two schedules goes, although none is asked for. -/
theorem second_arrival_not_inLine :
    let id (d : Fin 16) : Uuid := ⟨List.replicate 32 d, rfl⟩
    let s (d : Fin 16) : Schedule := ⟨id d, none, "0 8 * * *", none, none, .datasetArrival⟩
    let c : Component :=
      ⟨⟨id 0, "orders", none, none, none, true⟩, .dataset, "orders", none, none, none, [s 1, s 2]⟩
    plan c [] = .ok [.delete (id 1)] ∧ .datasetArrival ∈ c.type.allowed ∧
      carryOutAll (fun _ => id 9) [.delete (id 1)] c.schedules = [s 2] ∧
      ¬InLine [] .datasetArrival [s 2] := by
  intro id s c
  refine ⟨by decide, by decide, by decide, fun h => ?_⟩
  have hnone : schedulesFor .datasetArrival [s 2] = [] := h.undrafted fun d hd => absurd hd List.not_mem_nil
  exact absurd hnone (by decide)

end SchedulePlan

end RunWatch
