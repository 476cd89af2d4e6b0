import RunWatch.Proofs.TaskGraph.Reachability

/-!
# Task graphs without cycles

Every link leads to a task that starts strictly later.  This needs nothing of the windows: a task may end before
it starts, and a running one may start only after the moment that counts as now.  So starts go up along every
way through the links, and none comes back to where it began (`links_acyclic`).

With repeated identifiers a way may well come back, from one task of an identifier to another one of it; a single
link still never does.
-/

namespace RunWatch

open Window

theorem Window.Linked.id_ne {ws : List Window} {a b : Window} (h : Linked ws a b) : a.id ≠ b.id := by
  obtain ⟨-, -, -, -, hfollow, -⟩ := h
  exact (Window.mayFollow_iff.mp hfollow).2.2.symm

variable {now : Instant} {spans : List Span}

/-- A link goes from one of the tasks to another of them, which may follow it. -/
theorem exists_tasks_of_mem_link {e : Edge} (he : e ∈ link now spans) :
    ∃ a ∈ spans, ∃ b ∈ spans, e = ⟨a.id, b.id⟩ ∧ a.id ≠ b.id ∧ a.MayFollow now b := by
  obtain ⟨a, ha, b, hb, hab, rfl⟩ := exists_linked_of_mem_link he
  exact ⟨a, ha, b, hb, rfl, hab.id_ne, hab.precedes⟩

theorem not_leadsTo_self (hids : (spans.map Span.id).Nodup) (x : Uuid) : ¬LeadsTo now spans x x := by
  intro hpath
  obtain ⟨y, hedge, -⟩ := Relation.TransGen.head'_iff.mp hpath
  obtain ⟨a, ha, b, -, heq, -⟩ := exists_tasks_of_mem_link hedge
  obtain rfl : x = a.id := (Edge.mk.inj heq).1
  have hmem : Window.ofSpan now a ∈ sortedWindows now spans := ofSpan_mem_sortedWindows ha
  have hwindows : Relation.TransGen (Linked (sortedWindows now spans)) (Window.ofSpan now a) (Window.ofSpan now a) :=
    (leadsTo_iff_transGen hids hmem hmem).mp hpath
  exact lt_irrefl _ (Window.precedes_of_transGen hwindows).2

/-- No link goes from an identifier to itself.  Where the tasks are distinct, no way through the links comes back
to where it began, no link is there twice, and each goes from one task to another that starts strictly later and
not before the first has ended. -/
theorem links_acyclic (now : Instant) (spans : List Span) :
    (∀ e ∈ link now spans, e.source ≠ e.target) ∧
      ((spans.map Span.id).Nodup →
        (∀ x, ¬LeadsTo now spans x x) ∧ (link now spans).Nodup ∧
          ∀ e ∈ link now spans, ∃ a ∈ spans, ∃ b ∈ spans, e = ⟨a.id, b.id⟩ ∧ a.MayFollow now b) := by
  constructor
  · intro e he
    obtain ⟨a, -, b, -, rfl, hid, -⟩ := exists_tasks_of_mem_link he
    exact hid
  · intro hids
    refine ⟨not_leadsTo_self hids, nodup_link hids, fun e he => ?_⟩
    obtain ⟨a, ha, b, hb, heq, -, hfollow⟩ := exists_tasks_of_mem_link he
    exact ⟨a, ha, b, hb, heq, hfollow⟩

/-- A task that ends before it starts, between one that is over and a running one that starts only after now: the
links lead through it, and not back. -/
theorem malformed_task_on_no_cycle :
    let t (s : Fin 86400) : Instant := ⟨⟨2026, 1, 1, by decide⟩, s, 0, s.isLt, .inl (by decide)⟩
    let task (d : Fin 16) (start : Fin 86400) (finish : Option (Fin 86400)) : Span :=
      ⟨⟨List.replicate 32 d, rfl⟩, t start, finish.map t⟩
    let a := task 0 0 (some 3)
    let b := task 1 10 (some 4)
    let c := task 2 20 none
    let spans := [a, b, c]
    (spans.map Span.id).Nodup ∧ link (t 5) spans = [⟨a.id, b.id⟩, ⟨b.id, c.id⟩] ∧
      ¬LeadsTo (t 5) spans b.id b.id := by
  intro t task a b c spans
  have hids : (spans.map Span.id).Nodup := by decide
  have hsorted : Window.sort (spans.map (Window.ofSpan (t 5))) = spans.map (Window.ofSpan (t 5)) :=
    List.mergeSort_of_pairwise (by decide)
  have hlinks : link (t 5) spans = [⟨a.id, b.id⟩, ⟨b.id, c.id⟩] := by
    rw [link, hsorted]
    decide
  exact ⟨hids, hlinks, ((links_acyclic (t 5) spans).2 hids).1 b.id⟩

end RunWatch
