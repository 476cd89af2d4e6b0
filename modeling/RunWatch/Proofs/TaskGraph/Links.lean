import Mathlib.Data.List.Nodup
import RunWatch.Proofs.Calendar.Order
import RunWatch.TaskGraph

/-!
# Links, pair by pair

`linksFrom` stops at the first window that starts when a successor found so far has ended.  What carries the
proof that nothing is lost by that is `Bounds`: the bound it keeps is the earliest end among the passed windows
that may follow the source, so it is reached exactly when one of them fits in between, and later windows start
later still.  Hence `link` is `linkByDefinition`, and two tasks have a link if and only if they are `Linked`.
-/

namespace RunWatch

namespace Window

theorem mayFollow_iff {a b : Window} :
    a.mayFollow b = true ↔ a.finish ≤ b.start ∧ a.start < b.start ∧ b.id ≠ a.id := by
  simp [mayFollow, and_assoc]

/-! ## Windows in order -/

theorem notAfter_iff {a b : Window} :
    a.notAfter b = true ↔ a.start < b.start ∨ a.start = b.start ∧ a.finish ≤ b.finish := by
  simp [notAfter]

theorem start_le_of_notAfter {a b : Window} (h : a.notAfter b = true) : a.start ≤ b.start := by
  obtain hlt | ⟨heq, -⟩ := notAfter_iff.mp h
  · exact hlt.le
  · exact heq.le

theorem notAfter_trans (a b c : Window) (hab : a.notAfter b = true) (hbc : b.notAfter c = true) :
    a.notAfter c = true := by
  rw [notAfter_iff] at *
  obtain hab | ⟨hab, hfinish⟩ := hab <;> obtain hbc | ⟨hbc, hfinish'⟩ := hbc
  · exact .inl (hab.trans hbc)
  · exact .inl (hab.trans_eq hbc)
  · exact .inl (hab.trans_lt hbc)
  · exact .inr ⟨hab.trans hbc, hfinish.trans hfinish'⟩

theorem notAfter_total (a b : Window) : (a.notAfter b || b.notAfter a) = true := by
  rw [Bool.or_eq_true, notAfter_iff, notAfter_iff]
  obtain hlt | heq | hlt := lt_trichotomy a.start b.start
  · exact .inl (.inl hlt)
  · exact (le_total a.finish b.finish).imp (fun h => .inr ⟨heq, h⟩) fun h => .inr ⟨heq.symm, h⟩
  · exact .inr (.inl hlt)

theorem sort_perm (ws : List Window) : (sort ws).Perm ws :=
  List.mergeSort_perm ws notAfter

theorem pairwise_sort (ws : List Window) : (sort ws).Pairwise fun a b => a.notAfter b = true :=
  List.pairwise_mergeSort notAfter_trans notAfter_total ws

theorem pairwise_start_sort (ws : List Window) : (sort ws).Pairwise fun a b => a.start ≤ b.start :=
  (pairwise_sort ws).imp start_le_of_notAfter

end Window

open Window

/-! ## The bound of the scan -/

/-- A bound that lies at the earliest end of the passed windows that may follow the source: it is reached
when one of them has ended. -/
def Window.Bounds (source : Window) (bound : Option Instant) (passed : List Window) : Prop :=
  ∀ t, (bound.any fun b => decide (b ≤ t)) =
    passed.any fun k => source.mayFollow k && decide (k.finish ≤ t)

variable {source : Window} {bound : Option Instant} {passed : List Window}

theorem bounds_nil : Bounds source none [] := fun _ => rfl

theorem Window.Bounds.follow (h : Bounds source bound passed) {w : Window} (hw : source.mayFollow w = true) :
    Bounds source (some (bound.elim w.finish (·.earlier w.finish))) (passed ++ [w]) := by
  intro t
  rw [List.any_append, ← h t]
  cases bound with
  | none => simp [hw]
  | some b => simp [hw, Instant.earlier_eq_min]

theorem Window.Bounds.skip (h : Bounds source bound passed) {w : Window} (hw : source.mayFollow w = false) :
    Bounds source bound (passed ++ [w]) := by
  intro t
  rw [List.any_append, ← h t]
  simp [hw]

/-- When one of the passed windows fits in before `t`, it fits in before all that starts later. -/
theorem linksFromByDefinition_eq_nil {t : Instant} {ws : List Window}
    (hpassed : (passed.any fun k => source.mayFollow k && decide (k.finish ≤ t)) = true)
    (hws : ∀ w ∈ ws, t ≤ w.start) : linksFromByDefinition source passed ws = [] := by
  induction ws generalizing passed with
  | nil => rfl
  | cons w ws ih =>
    have hw : t ≤ w.start := hws w List.mem_cons_self
    have hbetween : (passed.any fun k => source.mayFollow k && decide (k.finish ≤ w.start)) = true := by
      simp only [List.any_eq_true, Bool.and_eq_true, decide_eq_true_eq] at hpassed ⊢
      obtain ⟨k, hk, hfollow, hfinish⟩ := hpassed
      exact ⟨k, hk, hfollow, hfinish.trans hw⟩
    have hrest : linksFromByDefinition source (passed ++ [w]) ws = [] := by
      apply ih
      · rw [List.any_append, hpassed, Bool.true_or]
      · exact fun w' hw' => hws w' (List.mem_cons_of_mem w hw')
    rw [linksFromByDefinition, hbetween, hrest, Bool.not_true, Bool.and_false]
    rfl

/-- The scan that stops early finds what the definition asks for. -/
theorem linksFrom_eq {ws : List Window} (h : Bounds source bound passed)
    (hws : ws.Pairwise fun a b => a.start ≤ b.start) :
    linksFrom source bound ws = linksFromByDefinition source passed ws := by
  induction ws generalizing bound passed with
  | nil => rfl
  | cons w ws ih =>
    obtain ⟨hw, hws'⟩ := List.pairwise_cons.mp hws
    have hbound := h w.start
    by_cases hstop : (bound.any fun b => decide (b ≤ w.start)) = true
    · rw [linksFrom, if_pos hstop]
      rw [hstop] at hbound
      symm
      apply linksFromByDefinition_eq_nil hbound.symm
      rintro w' (_ | ⟨_, hw'⟩)
      · exact le_refl _
      · exact hw w' hw'
    · rw [linksFrom, if_neg hstop, linksFromByDefinition, ← hbound, Bool.eq_false_iff.mpr hstop]
      cases hfollow : source.mayFollow w with
      | true => simp [ih (h.follow hfollow) hws']
      | false => simp [ih (h.skip hfollow) hws']

theorem linkSorted_eq {ws : List Window} (hws : ws.Pairwise fun a b => a.start ≤ b.start) :
    linkSorted ws = linkSortedByDefinition ws := by
  induction ws with
  | nil => rfl
  | cons w ws ih =>
    obtain ⟨-, hws'⟩ := List.pairwise_cons.mp hws
    rw [linkSorted, linkSortedByDefinition, linksFrom_eq bounds_nil hws', ih hws']

/-! ## The condition for a link -/

/-- Whether `b` is linked from `source` when the windows `between` stand in between. -/
def Window.Joins (source : Window) (between : List Window) (b : Window) : Prop :=
  source.mayFollow b = true ∧ ∀ k ∈ between, source.mayFollow k = true → b.start < k.finish

instance (source : Window) (between : List Window) (b : Window) : Decidable (source.Joins between b) :=
  inferInstanceAs (Decidable (_ ∧ _))

theorem linksFromByDefinition_cons (source : Window) (passed : List Window) (w : Window) (ws : List Window) :
    linksFromByDefinition source passed (w :: ws) =
      (if source.Joins passed w then [⟨source.id, w.id⟩] else []) ++
        linksFromByDefinition source (passed ++ [w]) ws := by
  have hjoins : (source.mayFollow w && !passed.any fun k => source.mayFollow k && decide (k.finish ≤ w.start))
      = decide (source.Joins passed w) := by
    rw [Bool.eq_iff_iff, decide_eq_true_eq]
    simp [Window.Joins]
  rw [linksFromByDefinition, hjoins]
  by_cases h : source.Joins passed w
  · simp [h]
  · simp [h]

/-! ## Linked windows -/

/-- `b` stands after `a` and may follow it, and whatever stands between the two and may follow `a` ends only
after `b` has started. -/
def Window.Linked (ws : List Window) (a b : Window) : Prop :=
  ∃ before between after, ws = before ++ a :: (between ++ b :: after) ∧ a.mayFollow b = true ∧
    ∀ k ∈ between, a.mayFollow k = true → b.start < k.finish

theorem mem_linksFromByDefinition {ws : List Window} {e : Edge} :
    e ∈ linksFromByDefinition source passed ws ↔
      ∃ between b after, ws = between ++ b :: after ∧ source.mayFollow b = true ∧
        (∀ k ∈ passed ++ between, source.mayFollow k = true → b.start < k.finish) ∧
        e = ⟨source.id, b.id⟩ := by
  induction ws generalizing passed with
  | nil => simp [linksFromByDefinition]
  | cons w ws ih =>
    have hhead : e ∈ (if source.Joins passed w then [(⟨source.id, w.id⟩ : Edge)] else []) ↔
        source.Joins passed w ∧ e = ⟨source.id, w.id⟩ := by
      by_cases h : source.Joins passed w
      · simp [h]
      · simp [h]
    rw [linksFromByDefinition_cons, List.mem_append, hhead, ih]
    constructor
    · rintro (⟨⟨hfollow, hpassed⟩, he⟩ | ⟨between, b, after, rfl, hfollow, hpassed, he⟩)
      · exact ⟨[], w, ws, rfl, hfollow, by simpa using hpassed, he⟩
      · refine ⟨w :: between, b, after, rfl, hfollow, ?_, he⟩
        rwa [List.append_assoc] at hpassed
    · rintro ⟨between, b, after, hws, hfollow, hpassed, he⟩
      cases between with
      | nil =>
        obtain ⟨rfl, rfl⟩ := List.cons.inj hws
        exact .inl ⟨⟨hfollow, by simpa using hpassed⟩, he⟩
      | cons w' between =>
        obtain ⟨rfl, rfl⟩ := List.cons.inj hws
        refine .inr ⟨between, b, after, rfl, hfollow, ?_, he⟩
        rwa [List.append_assoc]

theorem mem_linkSortedByDefinition {ws : List Window} {e : Edge} :
    e ∈ linkSortedByDefinition ws ↔ ∃ a b, Linked ws a b ∧ e = ⟨a.id, b.id⟩ := by
  induction ws with
  | nil => simp [linkSortedByDefinition, Linked]
  | cons w ws ih =>
    rw [linkSortedByDefinition, List.mem_append, mem_linksFromByDefinition, ih]
    constructor
    · rintro (⟨between, b, after, rfl, hfollow, hbetween, he⟩ | ⟨a, b, ⟨before, between, after, rfl, h⟩, he⟩)
      · exact ⟨w, b, ⟨[], between, after, rfl, hfollow, hbetween⟩, he⟩
      · exact ⟨a, b, ⟨w :: before, between, after, rfl, h⟩, he⟩
    · rintro ⟨a, b, ⟨before, between, after, hws, hfollow, hbetween⟩, he⟩
      cases before with
      | nil =>
        obtain ⟨rfl, rfl⟩ := List.cons.inj hws
        exact .inl ⟨between, b, after, rfl, hfollow, hbetween, he⟩
      | cons w' before =>
        obtain ⟨rfl, rfl⟩ := List.cons.inj hws
        exact .inr ⟨a, b, ⟨before, between, after, rfl, hfollow, hbetween⟩, he⟩

theorem Window.Linked.mem {ws : List Window} {a b : Window} (h : Linked ws a b) : a ∈ ws ∧ b ∈ ws := by
  obtain ⟨before, between, after, rfl, -⟩ := h
  simp

/-! ## Distinct tasks -/

/-- Windows of distinct tasks, in order. -/
structure Window.InOrder (ws : List Window) : Prop where
  sorted : ws.Pairwise fun a b => a.notAfter b = true
  distinct : (ws.map Window.id).Nodup

namespace Window.InOrder

variable {ws before between after : List Window} {a b c : Window}

theorem starts (h : InOrder ws) : ws.Pairwise fun a b => a.start ≤ b.start :=
  h.sorted.imp start_le_of_notAfter

theorem nodup (h : InOrder ws) : ws.Nodup := List.Nodup.of_map Window.id h.distinct

theorem eq_of_id (h : InOrder ws) (ha : a ∈ ws) (hb : b ∈ ws) (hid : a.id = b.id) : a = b :=
  List.inj_on_of_nodup_map h.distinct ha hb hid

/-- Of two tasks the one that starts first stands first. -/
theorem exists_between (h : InOrder ws) (ha : a ∈ ws) (hb : b ∈ ws) (hlt : a.start < b.start) :
    ∃ before between after, ws = before ++ a :: (between ++ b :: after) := by
  obtain ⟨before, rest, rfl⟩ := List.append_of_mem ha
  obtain ⟨-, -, hcross⟩ := List.pairwise_append.mp h.starts
  obtain hb | hb | hb : b ∈ before ∨ b = a ∨ b ∈ rest := by simpa using hb
  · exact absurd (hcross b hb a List.mem_cons_self) (not_le.mpr hlt)
  · exact absurd (hb ▸ hlt) (lt_irrefl _)
  · obtain ⟨between, after, rfl⟩ := List.append_of_mem hb
    exact ⟨before, between, after, rfl⟩

/-- What starts between two tasks stands between them. -/
theorem mem_between (h : InOrder (before ++ a :: (between ++ b :: after)))
    (hc : c ∈ before ++ a :: (between ++ b :: after)) (hac : a.start < c.start) (hcb : c.start < b.start) :
    c ∈ between := by
  obtain ⟨-, hrest, hcross⟩ := List.pairwise_append.mp h.starts
  obtain ⟨-, hafter, -⟩ := List.pairwise_append.mp (List.pairwise_cons.mp hrest).2
  obtain hc | hc | hc | hc | hc : c ∈ before ∨ c = a ∨ c ∈ between ∨ c = b ∨ c ∈ after := by simpa using hc
  · exact absurd (hcross c hc a List.mem_cons_self) (not_le.mpr hac)
  · exact absurd (hc ▸ hac) (lt_irrefl _)
  · exact hc
  · exact absurd (hc ▸ hcb) (lt_irrefl _)
  · exact absurd ((List.pairwise_cons.mp hafter).1 c hc) (not_le.mpr hcb)

end Window.InOrder

/-- The targets of the links from one task are tasks after it, each at most once. -/
theorem target_linksFromByDefinition (source : Window) (passed ws : List Window) :
    ((linksFromByDefinition source passed ws).map Edge.target).Sublist (ws.map Window.id) := by
  induction ws generalizing passed with
  | nil => exact .slnil
  | cons w ws ih =>
    rw [linksFromByDefinition]
    split
    · exact (ih (passed ++ [w])).cons_cons w.id
    · exact (ih (passed ++ [w])).cons w.id

theorem nodup_linkSortedByDefinition {ws : List Window} (h : (ws.map Window.id).Nodup) :
    (linkSortedByDefinition ws).Nodup := by
  induction ws with
  | nil => exact .nil
  | cons w ws ih =>
    obtain ⟨hw, hws⟩ := List.nodup_cons.mp h
    rw [linkSortedByDefinition, List.nodup_append]
    have htargets := (target_linksFromByDefinition w [] ws).nodup hws
    refine ⟨List.Nodup.of_map Edge.target htargets, ih hws, ?_⟩
    intro e he e' he' heq
    obtain ⟨-, b, -, -, -, -, he⟩ := mem_linksFromByDefinition.mp he
    obtain ⟨a, b', hab, he'⟩ := mem_linkSortedByDefinition.mp he'
    have hid : w.id = a.id := (Edge.mk.inj ((he.symm.trans heq).trans he')).1
    exact hw (hid ▸ List.mem_map_of_mem hab.mem.1)

/-! ## The links of tasks -/

/-- When a task ends; a running one ends now. -/
def Span.finish (now : Instant) (s : Span) : Instant := s.endTime.getD now

/-- The windows of some tasks in order. -/
def sortedWindows (now : Instant) (spans : List Span) : List Window :=
  Window.sort (spans.map (Window.ofSpan now))

variable {now : Instant} {spans : List Span}

theorem mem_sortedWindows {w : Window} :
    w ∈ sortedWindows now spans ↔ ∃ s ∈ spans, Window.ofSpan now s = w := by
  rw [sortedWindows, (Window.sort_perm _).mem_iff, List.mem_map]

theorem ofSpan_mem_sortedWindows {s : Span} (hs : s ∈ spans) :
    Window.ofSpan now s ∈ sortedWindows now spans :=
  mem_sortedWindows.mpr ⟨s, hs, rfl⟩

theorem inOrder_sortedWindows (hids : (spans.map Span.id).Nodup) : InOrder (sortedWindows now spans) := by
  refine ⟨Window.pairwise_sort _, ?_⟩
  rw [sortedWindows, ((Window.sort_perm _).map Window.id).nodup_iff, List.map_map]
  exact hids

theorem link_eq_linkByDefinition (now : Instant) (spans : List Span) :
    link now spans = linkByDefinition now spans :=
  linkSorted_eq (Window.pairwise_start_sort _)

theorem mem_link {e : Edge} :
    e ∈ link now spans ↔ ∃ a b, Linked (sortedWindows now spans) a b ∧ e = ⟨a.id, b.id⟩ := by
  rw [link_eq_linkByDefinition]
  exact mem_linkSortedByDefinition

/-- Behind each link stand two of the tasks, with linked windows. -/
theorem exists_linked_of_mem_link {e : Edge} (he : e ∈ link now spans) :
    ∃ a ∈ spans, ∃ b ∈ spans,
      Linked (sortedWindows now spans) (Window.ofSpan now a) (Window.ofSpan now b) ∧ e = ⟨a.id, b.id⟩ := by
  obtain ⟨w, w', hlinked, rfl⟩ := mem_link.mp he
  obtain ⟨a, ha, rfl⟩ := mem_sortedWindows.mp hlinked.mem.1
  obtain ⟨b, hb, rfl⟩ := mem_sortedWindows.mp hlinked.mem.2
  exact ⟨a, ha, b, hb, hlinked, rfl⟩

theorem nodup_link (hids : (spans.map Span.id).Nodup) : (link now spans).Nodup := by
  rw [link_eq_linkByDefinition]
  exact nodup_linkSortedByDefinition (inOrder_sortedWindows hids).distinct

end RunWatch
