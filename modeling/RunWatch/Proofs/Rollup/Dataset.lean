import RunWatch.Proofs.Rollup.Severity

/-!
# The status of a dataset

A dataset is rolled up from those of its tests that did not pass (`complaints`).  Leaving the others out makes no
difference to the rollup of all tests, since what has passed weighs least (`Leads.of_complaints`).  Without a complaint
two questions are left, whether the dataset was written and whether it is expected at all (`ofDataset_eq`), so that all
else about tests, events and schedules is of no account.
-/

namespace RunWatch

theorem Event.isWrite_iff (e : Event) : e.isWrite ↔ ∃ path, e.payload = .datasetOperation .write path := by
  unfold isWrite
  split
  · next path h => exact ⟨fun _ => ⟨path, h⟩, fun _ => rfl⟩
  · next hother => exact ⟨fun h => absurd h Bool.false_ne_true, fun ⟨path, h⟩ => absurd h (hother path)⟩

namespace RunStatus

/-- The statuses that those of some tests amount to which did not pass. -/
def complaints (tests : List TestOutcome) : List RunStatus :=
  ((tests.map TestOutcome.status).filter (· ≠ .passed)).map TestStatus.toRunStatus

variable {events events' : List Event} {tests tests' : List TestOutcome} {schedules schedules' : List Schedule}
  {s : RunStatus}

theorem mem_complaints : s ∈ complaints tests ↔ ∃ t ∈ tests, t.status ≠ .passed ∧ t.status.toRunStatus = s := by
  simp [complaints, and_assoc]

theorem complaints_eq_nil : complaints tests = [] ↔ ∀ t ∈ tests, t.status = .passed := by
  simp [complaints]

theorem complaints_ne_nil (h : ∃ t ∈ tests, t.status ≠ .passed) : complaints tests ≠ [] := by
  obtain ⟨t, ht, hstatus⟩ := h
  exact fun hnil => hstatus (complaints_eq_nil.mp hnil t ht)

theorem weight_completed_le (s : RunStatus) : completed.severity.weight ≤ s.severity.weight := by
  cases s <;> decide

/-- What leads the complaints leads all tests. -/
theorem Leads.of_complaints (h : s.Leads (complaints tests)) : s.Leads (tests.map fun t => t.status.toRunStatus) := by
  obtain ⟨t, ht, -, hs⟩ := mem_complaints.mp h.mem
  refine ⟨List.mem_map.mpr ⟨t, ht, hs⟩, List.forall_mem_map.mpr fun t' ht' => ?_⟩
  by_cases hpassed : t'.status = .passed
  · rw [hpassed]
    exact weight_completed_le s
  · exact h.weight_le _ (mem_complaints.mpr ⟨t', ht', hpassed, rfl⟩)

theorem mostSevere_complaints (initial : RunStatus) (h : complaints tests ≠ []) :
    mostSevere (complaints tests) = mostSevereOr initial (tests.map fun t => t.status.toRunStatus) := by
  have hleads := (leads_mostSevereOr .pending h).of_complaints
  exact ((mostSevereOr_eq_iff (List.ne_nil_of_mem hleads.mem)).mpr hleads).symm

/-! ## What decides -/

theorem ofDataset_eq (events : List Event) (tests : List TestOutcome) (schedules : List Schedule) :
    ofDataset events tests schedules =
      if complaints tests ≠ [] then mostSevere (complaints tests)
      else if events.any Event.isWrite then .completed
      else if schedules.isEmpty then .pending
      else .missing := by
  unfold ofDataset complaints
  cases (tests.map TestOutcome.status).filter (· ≠ .passed) with
  | nil => rfl
  | cons status rest => rfl

theorem complaints_congr (h : ∀ t, t.status ≠ .passed → (t ∈ tests ↔ t ∈ tests')) (s : RunStatus) :
    s ∈ complaints tests ↔ s ∈ complaints tests' := by
  simp only [mem_complaints]
  constructor
  · rintro ⟨t, ht, hstatus, hs⟩
    exact ⟨t, (h t hstatus).mp ht, hstatus, hs⟩
  · rintro ⟨t, ht, hstatus, hs⟩
    exact ⟨t, (h t hstatus).mpr ht, hstatus, hs⟩

theorem any_isWrite_congr (h : ∀ e : Event, e.isWrite → (e ∈ events ↔ e ∈ events')) :
    events.any Event.isWrite = events'.any Event.isWrite := by
  rw [Bool.eq_iff_iff, List.any_eq_true, List.any_eq_true]
  constructor
  · rintro ⟨e, he, hwrite⟩
    exact ⟨e, (h e hwrite).mp he, hwrite⟩
  · rintro ⟨e, he, hwrite⟩
    exact ⟨e, (h e hwrite).mpr he, hwrite⟩

/-- What does not stand in the way of a dataset makes no difference to it: tests that passed, events that are no writes,
and how often and in which order everything is listed. -/
theorem ofDataset_congr (htests : ∀ t, t.status ≠ .passed → (t ∈ tests ↔ t ∈ tests'))
    (hevents : ∀ e : Event, e.isWrite → (e ∈ events ↔ e ∈ events'))
    (hschedules : ∀ s, s ∈ schedules ↔ s ∈ schedules') :
    ofDataset events tests schedules = ofDataset events' tests' schedules' := by
  have hcomplaints := complaints_congr htests
  have hnil : complaints tests = [] ↔ complaints tests' = [] := by
    simp only [List.eq_nil_iff_forall_not_mem, hcomplaints]
  have hexpected : schedules.isEmpty = schedules'.isEmpty := by
    rw [Bool.eq_iff_iff, List.isEmpty_iff, List.isEmpty_iff]
    simp only [List.eq_nil_iff_forall_not_mem, hschedules]
  have hworst : mostSevere (complaints tests) = mostSevere (complaints tests') :=
    mostSevereOr_congr .pending hcomplaints
  rw [ofDataset_eq, ofDataset_eq, hworst, any_isWrite_congr hevents, hexpected]
  simp only [ne_eq, hnil]

/-- If some test did not pass, a dataset has the status that its tests are rolled up to, whatever the events and the
schedules.  Otherwise it is complete once it was written; before that it is missing if there is a schedule and pending
if there is none.  So the status stays the same when what is given is listed in another order or repeated, and when
tests that passed or events that are no writes come or go. -/
theorem dataset_decided_by_complaints_then_write (events events' : List Event) (tests tests' : List TestOutcome)
    (schedules schedules' : List Schedule) :
    ((∃ t ∈ tests, t.status ≠ .passed) →
      ofDataset events tests schedules = ofTests tests ∧
        ofDataset events tests schedules = mostSevere (tests.map fun t => t.status.toRunStatus)) ∧
    ((∀ t ∈ tests, t.status = .passed) →
      ((∃ e ∈ events, ∃ path, e.payload = .datasetOperation .write path) →
        ofDataset events tests schedules = .completed) ∧
      ((¬∃ e ∈ events, ∃ path, e.payload = .datasetOperation .write path) →
        (schedules ≠ [] → ofDataset events tests schedules = .missing) ∧
          (schedules = [] → ofDataset events tests schedules = .pending))) ∧
    ((∀ t, t.status ≠ .passed → (t ∈ tests ↔ t ∈ tests')) →
      (∀ e : Event, (∃ path, e.payload = .datasetOperation .write path) → (e ∈ events ↔ e ∈ events')) →
      (∀ s, s ∈ schedules ↔ s ∈ schedules') →
      ofDataset events tests schedules = ofDataset events' tests' schedules') := by
  have hwritten : events.any Event.isWrite ↔ ∃ e ∈ events, ∃ path, e.payload = .datasetOperation .write path := by
    simp only [List.any_eq_true, Event.isWrite_iff]
  refine ⟨fun hcomplaint => ?_, fun hpassed => ?_, fun htests hevents hschedules => ?_⟩
  · have hcomplaints := complaints_ne_nil hcomplaint
    rw [ofDataset_eq, if_pos hcomplaints]
    exact ⟨mostSevere_complaints .completed hcomplaints, mostSevere_complaints .pending hcomplaints⟩
  · rw [ofDataset_eq, if_neg (not_not.mpr (complaints_eq_nil.mpr hpassed)), ← hwritten]
    refine ⟨fun h => if_pos h, fun h => ⟨fun hexpected => ?_, fun hunexpected => ?_⟩⟩
    · rw [if_neg h, if_neg (mt List.isEmpty_iff.mp hexpected)]
    · rw [if_neg h, if_pos (List.isEmpty_iff.mpr hunexpected)]
  · exact ofDataset_congr htests (fun e hwrite => hevents e ((Event.isWrite_iff e).mp hwrite)) hschedules

/-- A warning decides over a write.  Where all tests passed, a dataset waits for its write, and no event of another sort
stands in for one. -/
theorem dataset_awaited_then_written :
    let id (d : Fin 16) : Uuid := ⟨List.replicate 32 d, rfl⟩
    let morning : Instant := ⟨⟨2026, 1, 1, by decide⟩, 28800, 0, by decide⟩
    let event (payload : Payload) : Event := ⟨id 1, morning, none, payload⟩
    let test (status : TestStatus) : TestOutcome :=
      ⟨id 2, "row_count", status, none, none, none, ⟨id 3, none, none, none⟩, none, none⟩
    let daily : Schedule := ⟨id 4, none, "0 6 * * *", none, some 600, .datasetArrival⟩
    let written := event (.datasetOperation .write none)
    let other := [event (.datasetOperation .read none), event (.runStatus .completed none),
      event (.testOutcomes []), event (.messageLog .error "write"), event (.metricLog "rows" (.finite (.zero false)))]
    ofDataset (written :: other) [test .passed, test .warning] [daily] = .completedWithWarnings ∧
      ofDataset other [test .passed] [daily] = .missing ∧ ofDataset other [test .passed] [] = .pending ∧
      ofDataset (written :: other) [test .passed] [daily] = .completed ∧
      ofDataset (written :: other) [test .passed] [daily, daily] = ofDataset [written, written] [] [daily] := by
  intro id morning event test daily written other
  have hpassed : ∀ t ∈ [test .passed], t.status = .passed := List.forall_mem_singleton.mpr rfl
  have hwritten : ∃ e ∈ written :: other, ∃ path, e.payload = .datasetOperation .write path :=
    ⟨written, List.mem_cons_self, none, rfl⟩
  have hother : ∀ e ∈ other, ¬∃ path, e.payload = .datasetOperation .write path := by simp [other, event]
  have hunwritten : ¬∃ e ∈ other, ∃ path, e.payload = .datasetOperation .write path :=
    fun ⟨e, he, hwrite⟩ => hother e he hwrite
  have hdecided := fun events tests schedules =>
    dataset_decided_by_complaints_then_write events [written, written] tests [] schedules [daily]
  refine ⟨?_, ?_, ?_, ?_, ?_⟩
  · exact ((hdecided (written :: other) [test .passed, test .warning] [daily]).1 ⟨test .warning, by simp, by decide⟩).1
  · exact (((hdecided other [test .passed] [daily]).2.1 hpassed).2 hunwritten).1 (List.cons_ne_nil _ _)
  · exact (((hdecided other [test .passed] []).2.1 hpassed).2 hunwritten).2 rfl
  · exact ((hdecided (written :: other) [test .passed] [daily]).2.1 hpassed).1 hwritten
  · refine (hdecided (written :: other) [test .passed] [daily, daily]).2.2
      (fun t ht => ?_) (fun e hwrite => ?_) (by simp)
    · simp only [List.mem_singleton, List.not_mem_nil, iff_false]
      rintro rfl
      exact ht rfl
    · have hnot : e ∉ other := fun he => hother e he hwrite
      simp [hnot]

end RunStatus

end RunWatch
