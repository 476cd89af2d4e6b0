import Mathlib.Data.List.Perm.Basic
import RunWatch.Proofs.TaskGraph.Places

/-!
# Links and the clock

A running task ends now, so what counts as now decides where its window stands among those that start with it.
Once every task has started this is all that the clock decides, and the links are the same whatever it says
(`links_independent_of_clock`).

The reason is that a window which lasts until all have started leads nowhere and hides nothing: it is at most the
target of links.  So the links are those among the windows that have `ended` by then, which the clock does not touch,
and those from them to the `lasting` ones (`linkSortedByDefinition_perm`).  For a lasting target it makes no
difference where among its equals it stands, since whatever ends by its start is sorted before it.
-/

namespace RunWatch

open Window

/-! ## What is over and what lasts -/

/-- The windows that end before a moment. -/
def Window.ended (t : Instant) (ws : List Window) : List Window :=
  ws.filter fun w => decide (w.finish < t)

/-- The windows that last until a moment or longer. -/
def Window.lasting (t : Instant) (ws : List Window) : List Window :=
  ws.filter fun w => decide (t ≤ w.finish)

/-- Whether `b` is linked from `source` when it stands behind all of `ws` that start no later. -/
def Window.JoinsLast (source : Window) (ws : List Window) (b : Window) : Prop :=
  source.Joins (ws.filter fun k => decide (k.start ≤ b.start)) b

instance (source : Window) (ws : List Window) (b : Window) : Decidable (source.JoinsLast ws b) :=
  inferInstanceAs (Decidable (source.Joins _ b))

/-- The links from windows that are over to some that last. -/
def linksToLasting (past last : List Window) : List Edge :=
  past.flatMap fun a => (last.filter fun b => a.JoinsLast past b).map fun b => ⟨a.id, b.id⟩

namespace Window

variable {t : Instant} {source a b w : Window} {ws passed past last last' : List Window}

theorem ended_append (ws ws' : List Window) : ended t (ws ++ ws') = ended t ws ++ ended t ws' :=
  List.filter_append ws ws'

theorem ended_cons_of_lt (h : w.finish < t) : ended t (w :: ws) = w :: ended t ws := by
  simp [ended, h]

theorem ended_cons_of_le (h : t ≤ w.finish) : ended t (w :: ws) = ended t ws := by
  simp [ended, h]

theorem lasting_cons_of_lt (h : w.finish < t) : lasting t (w :: ws) = lasting t ws := by
  simp [lasting, h]

theorem lasting_cons_of_le (h : t ≤ w.finish) : lasting t (w :: ws) = w :: lasting t ws := by
  simp [lasting, h]

theorem mem_ended : w ∈ ended t ws ↔ w ∈ ws ∧ w.finish < t := by
  simp [ended]

theorem joinsLast_iff :
    source.JoinsLast ws b ↔ source.mayFollow b = true ∧
      ∀ k ∈ ws, k.start ≤ b.start → source.mayFollow k = true → b.start < k.finish := by
  simp [JoinsLast, Joins]

/-- What starts no later than `a` makes no difference to what is linked from it. -/
theorem joinsLast_cons (h : w.start ≤ a.start) : a.JoinsLast (w :: ws) b ↔ a.JoinsLast ws b := by
  rw [joinsLast_iff, joinsLast_iff, List.forall_mem_cons]
  refine and_congr_right fun _ => and_iff_right ?_
  intro _ hfollow
  exact absurd (mayFollow_iff.mp hfollow).2.1 (not_lt.mpr h)

/-- What lasts hides nothing. -/
theorem joins_ended (hw : w.start < t) : source.Joins (ended t passed) w ↔ source.Joins passed w := by
  refine and_congr_right fun _ => ⟨fun h k hk hfollow => ?_, fun h k hk => h k (mem_ended.mp hk).1⟩
  by_cases hended : k.finish < t
  · exact h k (mem_ended.mpr ⟨hk, hended⟩) hfollow
  · exact hw.trans_le (not_lt.mp hended)

/-- What ends by the start of a lasting window is sorted before it. -/
theorem joinsLast_ended (hsorted : (passed ++ w :: ws).Pairwise fun a b => a.notAfter b = true)
    (hw : w.start < t) (hlasting : t ≤ w.finish) :
    source.JoinsLast (ended t (passed ++ w :: ws)) w ↔ source.Joins passed w := by
  obtain ⟨-, hrest, hcross⟩ := List.pairwise_append.mp hsorted
  rw [joinsLast_iff, ← joins_ended hw, Joins]
  refine and_congr_right fun _ => ⟨fun h k hk hfollow => ?_, fun h k hk hstart hfollow => ?_⟩
  · obtain ⟨hk, hended⟩ := mem_ended.mp hk
    exact h k (mem_ended.mpr ⟨List.mem_append_left _ hk, hended⟩)
      (start_le_of_notAfter (hcross k hk w List.mem_cons_self)) hfollow
  · obtain ⟨hk, hended⟩ := mem_ended.mp hk
    obtain hk | rfl | hk : k ∈ passed ∨ k = w ∨ k ∈ ws := by simpa using hk
    · exact h k (mem_ended.mpr ⟨hk, hended⟩) hfollow
    · exact absurd hended (not_lt.mpr hlasting)
    · obtain hlt | ⟨-, hle⟩ := notAfter_iff.mp ((List.pairwise_cons.mp hrest).1 k hk)
      · exact absurd hstart (not_le.mpr hlt)
      · exact absurd hended (not_lt.mpr (hlasting.trans hle))

/-! ## The links of windows in order -/

/-- The links from one window: to what is over behind it, and to what lasts. -/
theorem linksFromByDefinition_perm (source : Window)
    (hsorted : (passed ++ ws).Pairwise fun a b => a.notAfter b = true) (hstarts : ∀ w ∈ ws, w.start < t) :
    (linksFromByDefinition source passed ws).Perm
      (linksFromByDefinition source (ended t passed) (ended t ws) ++
        ((lasting t ws).filter fun b => source.JoinsLast (ended t (passed ++ ws)) b).map
          fun b => ⟨source.id, b.id⟩) := by
  induction ws generalizing passed with
  | nil => exact .refl _
  | cons w ws ih =>
    have hw : w.start < t := hstarts w List.mem_cons_self
    have happend : passed ++ w :: ws = passed ++ [w] ++ ws := by simp
    have hrest := ih (happend ▸ hsorted) fun w' hw' => hstarts w' (List.mem_cons_of_mem w hw')
    rw [linksFromByDefinition_cons]
    by_cases hended : w.finish < t
    · rw [ended_cons_of_lt hended, lasting_cons_of_lt hended, linksFromByDefinition_cons, happend, List.append_assoc]
      rw [ended_append, ended_cons_of_lt hended] at hrest
      simp only [joins_ended hw]
      exact hrest.append_left _
    · have hlasting : t ≤ w.finish := not_lt.mp hended
      have hpassed : ended t (passed ++ [w]) = ended t passed := by
        rw [ended_append, ended_cons_of_le hlasting]
        exact List.append_nil _
      rw [hpassed, ← happend] at hrest
      rw [ended_cons_of_le hlasting, lasting_cons_of_le hlasting]
      by_cases hjoins : source.Joins passed w
      · have hlast : source.JoinsLast (ended t (passed ++ w :: ws)) w :=
          (joinsLast_ended hsorted hw hlasting).mpr hjoins
        rw [if_pos hjoins, List.filter_cons_of_pos (by simpa using hlast), List.map_cons]
        exact (hrest.cons _).trans List.perm_middle.symm
      · have hlast : ¬source.JoinsLast (ended t (passed ++ w :: ws)) w :=
          mt (joinsLast_ended hsorted hw hlasting).mp hjoins
        rw [if_neg hjoins, List.filter_cons_of_neg (by simpa using hlast)]
        exact hrest

/-- No link leaves a window that lasts until all behind it have started. -/
theorem linksFromByDefinition_of_lasting (hlasting : t ≤ source.finish) (hstarts : ∀ w ∈ ws, w.start < t) :
    linksFromByDefinition source passed ws = [] := by
  refine List.eq_nil_iff_forall_not_mem.mpr fun e he => ?_
  obtain ⟨between, b, after, rfl, hfollow, -⟩ := mem_linksFromByDefinition.mp he
  have hb : b.start < t := hstarts b (by simp)
  exact absurd (mayFollow_iff.mp hfollow).1 (not_le.mpr (hb.trans_le hlasting))

theorem linksToLasting_cons_past (h : ∀ a ∈ past, w.start ≤ a.start) :
    linksToLasting (w :: past) last =
      ((last.filter fun b => w.JoinsLast past b).map fun b => ⟨w.id, b.id⟩) ++ linksToLasting past last := by
  rw [linksToLasting, List.flatMap_cons, linksToLasting]
  simp only [joinsLast_cons (le_refl w.start)]
  congr 1
  refine List.flatMap_congr fun a ha => ?_
  simp only [joinsLast_cons (h a ha)]

theorem linksToLasting_cons_last (h : ∀ a ∈ past, w.start ≤ a.start) :
    linksToLasting past (w :: last) = linksToLasting past last := by
  refine List.flatMap_congr fun a ha => ?_
  have hjoins : ¬a.JoinsLast past w := fun hjoins =>
    absurd (mayFollow_iff.mp hjoins.1).2.1 (not_lt.mpr (h a ha))
  rw [List.filter_cons_of_neg (by simpa using hjoins)]

theorem linksToLasting_perm (h : last.Perm last') :
    (linksToLasting past last).Perm (linksToLasting past last') :=
  List.Perm.flatMap_left past fun _ _ => (h.filter _).map _

/-- The links of windows in order: those among what is over, and those from there to what lasts. -/
theorem linkSortedByDefinition_perm (hsorted : ws.Pairwise fun a b => a.notAfter b = true)
    (hstarts : ∀ w ∈ ws, w.start < t) :
    (linkSortedByDefinition ws).Perm
      (linkSortedByDefinition (ended t ws) ++ linksToLasting (ended t ws) (lasting t ws)) := by
  induction ws with
  | nil => exact .refl _
  | cons w ws ih =>
    obtain ⟨hw, hws⟩ := List.pairwise_cons.mp hsorted
    have hstarts' : ∀ w' ∈ ws, w'.start < t := fun w' hw' => hstarts w' (List.mem_cons_of_mem w hw')
    have hfirst : ∀ a ∈ ended t ws, w.start ≤ a.start := fun a ha =>
      start_le_of_notAfter (hw a (mem_ended.mp ha).1)
    rw [linkSortedByDefinition]
    by_cases hended : w.finish < t
    · rw [ended_cons_of_lt hended, lasting_cons_of_lt hended, linkSortedByDefinition, linksToLasting_cons_past hfirst]
      have hrow : (linksFromByDefinition w [] ws).Perm _ := linksFromByDefinition_perm w hws hstarts'
      refine (hrow.append (ih hws hstarts')).trans ?_
      simp only [List.append_assoc]
      refine List.Perm.append_left _ ?_
      rw [← List.append_assoc, ← List.append_assoc]
      exact List.Perm.append_right _ List.perm_append_comm
    · have hlasting : t ≤ w.finish := not_lt.mp hended
      rw [ended_cons_of_le hlasting, lasting_cons_of_le hlasting, linksToLasting_cons_last hfirst,
        linksFromByDefinition_of_lasting hlasting hstarts']
      exact ih hws hstarts'

end Window

/-! ## Two clocks -/

/-- Whether a task is known to have ended before a moment. -/
def Span.endsBefore (t : Instant) (s : Span) : Bool :=
  s.endTime.any fun finish => decide (finish < t)

section Clocks

variable {t now now' : Instant} {spans : List Span}

theorem ofSpan_finish_lt (ht : t ≤ now) (s : Span) :
    decide ((Window.ofSpan now s).finish < t) = s.endsBefore t := by
  cases hend : s.endTime with
  | none => simp [Window.ofSpan, Span.endsBefore, hend, ht]
  | some finish => simp [Window.ofSpan, Span.endsBefore, hend]

theorem ofSpan_eq_of_endsBefore {s : Span} (hs : s.endsBefore t = true) (now now' : Instant) :
    Window.ofSpan now s = Window.ofSpan now' s := by
  cases hend : s.endTime with
  | none => simp [Span.endsBefore, hend] at hs
  | some finish => simp [Window.ofSpan, hend]

theorem ended_map_ofSpan (ht : t ≤ now) (spans : List Span) :
    ended t (spans.map (Window.ofSpan now)) = (spans.filter (Span.endsBefore t)).map (Window.ofSpan now) := by
  rw [ended, List.filter_map]
  exact congrArg (List.map _) (List.filter_congr fun s _ => ofSpan_finish_lt ht s)

theorem lasting_map_ofSpan (ht : t ≤ now) (spans : List Span) :
    lasting t (spans.map (Window.ofSpan now)) =
      (spans.filter fun s => !s.endsBefore t).map (Window.ofSpan now) := by
  rw [lasting, List.filter_map]
  refine congrArg (List.map _) (List.filter_congr fun s _ => ?_)
  rw [← ofSpan_finish_lt ht s]
  simp [← not_lt]

/-- What is over by then stands in the same order under both clocks. -/
theorem ended_sortedWindows (ht : t ≤ now) (ht' : t ≤ now') (spans : List Span) :
    ended t (sortedWindows now spans) = ended t (sortedWindows now' spans) := by
  have hwindows : ended t (spans.map (Window.ofSpan now)) = ended t (spans.map (Window.ofSpan now')) := by
    rw [ended_map_ofSpan ht, ended_map_ofSpan ht']
    exact List.map_congr_left fun s hs => ofSpan_eq_of_endsBefore (List.mem_filter.mp hs).2 now now'
  rw [sortedWindows, sortedWindows, ended, ended, Window.filter_sort, Window.filter_sort]
  exact congrArg Window.sort hwindows

/-- The links to what lasts lead to the same tasks under both clocks. -/
theorem linksToLasting_sortedWindows (ht : t ≤ now) (ht' : t ≤ now') (past : List Window) (spans : List Span) :
    (linksToLasting past (lasting t (sortedWindows now spans))).Perm
      (linksToLasting past (lasting t (sortedWindows now' spans))) := by
  have hgiven : ∀ {clock : Instant}, t ≤ clock →
      (linksToLasting past (lasting t (sortedWindows clock spans))).Perm
        (linksToLasting past ((spans.filter fun s => !s.endsBefore t).map (Window.ofSpan clock))) := by
    intro clock hclock
    rw [← lasting_map_ofSpan hclock]
    exact linksToLasting_perm ((Window.sort_perm _).filter _)
  refine (hgiven ht).trans (.trans (.of_eq ?_) (hgiven ht').symm)
  -- Only the start and the identifier of the target count, and the clock has no part in these.
  simp only [linksToLasting, List.filter_map, List.map_map]
  rfl

end Clocks

/-- No link leaves a running task: none its window, and the source of each link is the identifier of a task that is
over. -/
def RunningLeadNowhere (now : Instant) (spans : List Span) : Prop :=
  (∀ s ∈ spans, s.endTime = none → ∀ b, ¬Linked (sortedWindows now spans) (Window.ofSpan now s) b) ∧
    ∀ e ∈ link now spans, ∃ a ∈ spans, a.endTime ≠ none ∧ a.id = e.source

theorem runningLeadNowhere {now : Instant} {spans : List Span} (hnow : ∀ s ∈ spans, s.startTime < now) :
    RunningLeadNowhere now spans := by
  have hrunning : ∀ s ∈ spans, s.endTime = none → ∀ b, ¬Linked (sortedWindows now spans) (Window.ofSpan now s) b := by
    intro s _ hend b hlinked
    obtain ⟨b, hb, rfl⟩ := mem_sortedWindows.mp hlinked.mem.2
    obtain ⟨-, -, -, -, hfollow, -⟩ := hlinked
    have hle : now ≤ b.startTime := by
      simpa [Window.ofSpan, hend] using (Window.mayFollow_iff.mp hfollow).1
    exact absurd (hnow b hb) (not_lt.mpr hle)
  refine ⟨hrunning, fun e he => ?_⟩
  obtain ⟨a, ha, b, -, hab, rfl⟩ := exists_linked_of_mem_link he
  exact ⟨a, ha, fun hend => hrunning a ha hend _ hab, rfl⟩

/-- Once all tasks have started, the links are the same at any two moments up to their order, and no link leaves a
running task. -/
theorem links_independent_of_clock {now now' : Instant} {spans : List Span} (hnow : ∀ s ∈ spans, s.startTime < now)
    (hnow' : ∀ s ∈ spans, s.startTime < now') :
    (link now spans).Perm (link now' spans) ∧ RunningLeadNowhere now spans ∧ RunningLeadNowhere now' spans ∧
      ∀ tasks : List RunTask, tasks.map Span.ofTask = spans → (linkTasks now tasks).Perm (linkTasks now' tasks) := by
  have hperm : (link now spans).Perm (link now' spans) := by
    have ht : min now now' ≤ now := min_le_left now now'
    have ht' : min now now' ≤ now' := min_le_right now now'
    have hsplit : ∀ clock, (linkByDefinition clock spans).Perm
        (linkSortedByDefinition (ended (min now now') (sortedWindows clock spans)) ++
          linksToLasting (ended (min now now') (sortedWindows clock spans))
            (lasting (min now now') (sortedWindows clock spans))) := by
      intro clock
      refine Window.linkSortedByDefinition_perm (Window.pairwise_sort _) fun w hw => ?_
      obtain ⟨s, hs, rfl⟩ := mem_sortedWindows.mp hw
      exact lt_min (hnow s hs) (hnow' s hs)
    rw [link_eq_linkByDefinition, link_eq_linkByDefinition]
    refine (hsplit now).trans (.trans ?_ (hsplit now').symm)
    rw [ended_sortedWindows ht ht' spans]
    exact (linksToLasting_sortedWindows ht ht' _ spans).append_left _
  refine ⟨hperm, runningLeadNowhere hnow, runningLeadNowhere hnow', ?_⟩
  rintro tasks rfl
  exact hperm

/-- A running task that started together with another one stands before it at first and behind it later.  The links
are those of the first moment all the same. -/
theorem running_task_overtaken :
    let t (s : Fin 86400) : Instant := ⟨⟨2026, 1, 1, by decide⟩, s, 0, s.isLt, .inl (by decide)⟩
    let task (d : Fin 16) (start : Fin 86400) (finish : Option (Fin 86400)) : Span :=
      ⟨⟨List.replicate 32 d, rfl⟩, t start, finish.map t⟩
    let a := task 0 0 (some 5)
    let b := task 1 10 none
    let c := task 2 10 (some 30)
    let spans := [a, b, c]
    (∀ s ∈ spans, s.startTime < t 20) ∧ (∀ s ∈ spans, s.startTime < t 40) ∧
      link (t 20) spans = [⟨a.id, b.id⟩, ⟨a.id, c.id⟩] ∧ (link (t 40) spans).Perm [⟨a.id, b.id⟩, ⟨a.id, c.id⟩] := by
  intro t task a b c spans
  have hearly : ∀ s ∈ spans, s.startTime < t 20 := by decide
  have hlate : ∀ s ∈ spans, s.startTime < t 40 := by decide
  have hsorted : Window.sort (spans.map (Window.ofSpan (t 20))) = spans.map (Window.ofSpan (t 20)) :=
    List.mergeSort_of_pairwise (by decide)
  have hlinks : link (t 20) spans = [⟨a.id, b.id⟩, ⟨a.id, c.id⟩] := by
    rw [link, hsorted]
    decide
  have hperm := (links_independent_of_clock hlate hearly).1
  exact ⟨hearly, hlate, hlinks, hlinks ▸ hperm⟩

end RunWatch
