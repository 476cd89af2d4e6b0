import RunWatch.Proofs.Rollup.Alerts
import RunWatch.Proofs.Rollup.Severity
import RunWatch.Proofs.Rollup.Tally
import RunWatch.Rollup.Overview

/-!
# Overviews agree and add up

The parts of an overview are made from the runs one by one, each in its own way, and still they tell the same of them
(`Overview.Accounts`): the status is the most severe of those that runs are counted by, and the tallies and the alert
board leave nothing out.  The overview of two lists of runs can be had from those of each (`Overview.Joins`), and
the order of the runs shows in the order of the alerts alone (`Overview.AlikeButOrder`).
-/

namespace RunWatch.Overview

open AlertGroup (ofLevel)

/-! ## One list of runs -/

/-- An overview that agrees with itself and with the runs it is of. -/
structure Accounts (o : Overview) (rs : List Run) : Prop where
  status_of_none : o.runs.statuses = [] → o.status = .pending
  status_leads : o.runs.statuses ≠ [] → o.status.Leads o.runs.statuses
  runs : o.runs.Tallies (rs.map fun r => ⟨r.status, 1⟩)
  total_runs : o.runs.total = rs.length
  tasks : o.tasks.Tallies (rs.flatMap Run.tasksSummary)
  tests : o.tests.Tallies (rs.flatMap Run.testsSummary)
  total_alerts : o.alerts.total = ((rs.flatMap Run.alerts).map fun a => a.count.toNat).sum

theorem tallies_runs (rs : List Run) : (ofRuns rs).runs.Tallies (rs.map fun r => ⟨r.status, 1⟩) :=
  Tally.tallies_ofRows RunStatus.rank_injective _

theorem tallies_tasks (rs : List Run) : (ofRuns rs).tasks.Tallies (rs.flatMap Run.tasksSummary) :=
  Tally.tallies_ofRows RunStatus.rank_injective _

theorem tallies_tests (rs : List Run) : (ofRuns rs).tests.Tallies (rs.flatMap Run.testsSummary) :=
  Tally.tallies_ofRows TestStatus.rank_injective _

/-- Runs are counted by the statuses that they have. -/
theorem mem_statuses_runs (rs : List Run) (s : RunStatus) : s ∈ (ofRuns rs).runs.statuses ↔ s ∈ rs.map Run.status := by
  rw [(tallies_runs rs).mem_statuses]
  simp

theorem statuses_runs_eq_nil (rs : List Run) : (ofRuns rs).runs.statuses = [] ↔ rs = [] := by
  rw [List.eq_nil_iff_forall_not_mem]
  simp only [mem_statuses_runs, ← List.eq_nil_iff_forall_not_mem, List.map_eq_nil_iff]

theorem accounts_ofRuns (rs : List Run) : (ofRuns rs).Accounts rs where
  status_of_none h := by
    rw [(statuses_runs_eq_nil rs).mp h]
    rfl
  status_leads h := by
    have hruns : rs.map Run.status ≠ [] := mt (List.map_eq_nil_iff.trans (statuses_runs_eq_nil rs).symm).mp h
    exact (RunStatus.leads_mostSevereOr .pending hruns).congr fun s => (mem_statuses_runs rs s).symm
  runs := tallies_runs rs
  total_runs := by
    rw [(tallies_runs rs).total_eq_rows, List.map_map]
    simp [Function.comp_def]
  tasks := tallies_tasks rs
  tests := tallies_tests rs
  total_alerts := AlertBoard.total_ofAlerts _

/-! ## Two lists of runs -/

/-- An overview of the runs that two others are of, those of the first in front. -/
structure Joins (o first second : Overview) : Prop where
  runs : o.runs.IsSum first.runs second.runs
  tasks : o.tasks.IsSum first.tasks second.tasks
  tests : o.tests.IsSum first.tests second.tests
  errors : o.alerts.errors = first.alerts.errors.followedBy second.alerts.errors
  warnings : o.alerts.warnings = first.alerts.warnings.followedBy second.alerts.warnings

theorem alerts_ofRuns (rs : List Run) :
    (ofRuns rs).alerts = ⟨ofLevel .error (rs.flatMap Run.alerts), ofLevel .warning (rs.flatMap Run.alerts)⟩ :=
  AlertBoard.ofAlerts_eq _

theorem joins_append (xs ys : List Run) : (ofRuns (xs ++ ys)).Joins (ofRuns xs) (ofRuns ys) where
  runs := (List.map_append ▸ tallies_runs (xs ++ ys)).isSum (tallies_runs xs) (tallies_runs ys)
  tasks := (List.flatMap_append ▸ tallies_tasks (xs ++ ys)).isSum (tallies_tasks xs) (tallies_tasks ys)
  tests := (List.flatMap_append ▸ tallies_tests (xs ++ ys)).isSum (tallies_tests xs) (tallies_tests ys)
  errors := by simp only [alerts_ofRuns, List.flatMap_append, AlertGroup.ofLevel_append]
  warnings := by simp only [alerts_ofRuns, List.flatMap_append, AlertGroup.ofLevel_append]

theorem status_append {xs ys : List Run} (hxs : xs ≠ []) (hys : ys ≠ []) :
    (ofRuns (xs ++ ys)).status.Leads [(ofRuns xs).status, (ofRuns ys).status] := by
  let parts : List (RunStatus × List RunStatus) := [(.pending, xs.map Run.status), (.pending, ys.map Run.status)]
  have hwhole : parts.flatMap Prod.snd = (xs ++ ys).map Run.status := by simp [parts]
  have hfilled : ∀ p ∈ parts, p.2 ≠ [] := by simp [parts, hxs, hys]
  have hstatus : (ofRuns (xs ++ ys)).status = RunStatus.mostSevere [(ofRuns xs).status, (ofRuns ys).status] := by
    have hparts := RunStatus.mostSevereOr_parts .pending .pending (List.cons_ne_nil _ _) hfilled
    rw [hwhole] at hparts
    exact hparts.symm
  rw [hstatus]
  exact RunStatus.leads_mostSevereOr .pending (List.cons_ne_nil _ _)

/-! ## Runs in another order -/

/-- Two overviews that differ at most in the order of their alerts. -/
structure AlikeButOrder (o o' : Overview) : Prop where
  status : o.status = o'.status
  runs : o.runs = o'.runs
  tasks : o.tasks = o'.tasks
  tests : o.tests = o'.tests
  errors : o.alerts.errors.Alike o'.alerts.errors
  warnings : o.alerts.warnings.Alike o'.alerts.warnings

theorem alikeButOrder_of_perm {xs ys : List Run} (h : xs.Perm ys) : (ofRuns xs).AlikeButOrder (ofRuns ys) where
  status := RunStatus.mostSevereOr_congr .pending fun s => (h.map Run.status).mem_iff
  runs := (tallies_runs xs).eq_of_perm (tallies_runs ys) (h.map _)
  tasks := (tallies_tasks xs).eq_of_perm (tallies_tasks ys) (h.flatMap_right _)
  tests := (tallies_tests xs).eq_of_perm (tallies_tests ys) (h.flatMap_right _)
  errors := by
    rw [alerts_ofRuns, alerts_ofRuns]
    exact AlertGroup.alike_ofLevel .error (h.flatMap_right _)
  warnings := by
    rw [alerts_ofRuns, alerts_ofRuns]
    exact AlertGroup.alike_ofLevel .warning (h.flatMap_right _)

/-- The parts of an overview agree: its status is the most severe of those that its runs are counted by, pending if
there are none, every run is counted, and tasks, tests and alerts are what the rows and alerts of all runs say.  The
overview of two lists of runs is the sum of theirs, with the more severe of their statuses, and the runs in another
order have the same overview up to the order of its alerts. -/
theorem parts_agree_and_add_up :
    (∀ rs, (ofRuns rs).Accounts rs) ∧
    (∀ xs ys, (ofRuns (xs ++ ys)).Joins (ofRuns xs) (ofRuns ys) ∧
      (xs ≠ [] → ys ≠ [] → (ofRuns (xs ++ ys)).status.Leads [(ofRuns xs).status, (ofRuns ys).status])) ∧
    ∀ xs ys, xs.Perm ys → (ofRuns xs).AlikeButOrder (ofRuns ys) :=
  ⟨accounts_ofRuns, fun xs ys => ⟨joins_append xs ys, status_append⟩, fun _ _ => alikeButOrder_of_perm⟩

/-- A failure outweighs missing data, though listings have missing data last.  Which of the two lists stands in front
shows in the order of the alerts at most. -/
theorem failure_outweighs_missing_data :
    let id (d : Fin 16) : Uuid := ⟨List.replicate 32 d, rfl⟩
    let morning : Instant := ⟨⟨2026, 1, 1, by decide⟩, 28800, 0, by decide⟩
    let run (d : Fin 16) (status : RunStatus) (tasks : List (StatusCount RunStatus))
      (tests : List (StatusCount TestStatus)) (alerts : List Alert) : Run :=
      ⟨id d, "load", none, ⟨id 9, none, none, none⟩, status, none, none, tasks, tests, alerts⟩
    let alert (d : Fin 16) (level : AlertLevel) (count : UInt64) : Alert :=
      ⟨id d, level, "LATE_END", "", morning, count⟩
    let xs := [run 1 .completed [⟨.completed, 3⟩] [] [alert 5 .error 2],
      run 2 .running [⟨.completed, 2⟩, ⟨.running, 1⟩] [] []]
    let ys := [run 3 .failed [⟨.failed, 0⟩] [⟨.failed, 4⟩] [alert 6 .error 1, alert 7 .warning 0],
      run 4 .missing [] [] []]
    let whole := ofRuns (xs ++ ys)
    (whole.status.Leads [.running, .failed] ∧ whole.status.Leads [.running, .completed, .failed, .missing]) ∧
      (whole.runs.total = 4 ∧ whole.tasks.get .completed = 5 + 0 ∧ whole.tests.total = 0 + 4) ∧
      (whole.alerts.errors = ⟨2 + 1, [alert 5 .error 2] ++ [alert 6 .error 1]⟩ ∧ whole.alerts.total = 3) ∧
      (ofRuns (ys ++ xs)).AlikeButOrder whole := by
  intro id morning run alert xs ys whole
  obtain ⟨hparts, hjoins, horder⟩ := parts_agree_and_add_up
  obtain ⟨hsum, hstatus⟩ := hjoins xs ys
  have hwhole : whole.Accounts (xs ++ ys) := hparts (xs ++ ys)
  refine ⟨⟨hstatus (List.cons_ne_nil _ _) (List.cons_ne_nil _ _), ?_⟩, ⟨hwhole.total_runs, ?_, ?_⟩, ⟨hsum.errors, ?_⟩,
    horder _ _ List.perm_append_comm⟩
  · exact (hwhole.status_leads (by decide)).congr fun s => by cases s <;> decide
  · exact hsum.tasks.get_eq .completed
  · exact hsum.tests.total_eq
  · exact hwhole.total_alerts

end RunWatch.Overview
