import Mathlib.Logic.Relation
import RunWatch.Proofs.TaskGraph.Links

/-!
# What the links lead to

A task is skipped as a successor when another successor has ended by its start, in the belief that it is
reached through that one.  So it is, with one exception: a task that takes no time, starts together with the
skipped one and stands before it ends by its start, but does not lead to it.  Such a task casts a shadow
(`Shadowed`): no link at all leads to what starts with it and stands behind it.  Everything else that is skipped
is reached (`transGen_linked_iff`), by induction on the tasks that start in between.
-/

namespace RunWatch

open List (Sublist)
open Window

/-! ## Which of two stands first -/

section Places

variable {α : Type} {before after ws : List α} {a b : α}

theorem mem_of_pair_sublist (hnodup : (before ++ b :: after).Nodup)
    (h : Sublist [a, b] (before ++ b :: after)) : a ∈ before := by
  obtain ⟨-, hrest, -⟩ := List.nodup_append.mp hnodup
  obtain ⟨l, l', heq, hl, hl'⟩ := List.sublist_append_iff.mp h
  cases l with
  | nil =>
    obtain rfl : [a, b] = l' := heq
    have hb : b ∈ after := by
      obtain hafter | ⟨-, hafter⟩ := List.cons_sublist_cons'.mp hl'
      · exact hafter.subset (by simp)
      · exact hafter.subset (by simp)
    exact absurd hb (List.nodup_cons.mp hrest).1
  | cons x l =>
    obtain ⟨rfl, -⟩ := List.cons.inj heq
    exact hl.subset List.mem_cons_self

theorem pair_sublist_of_mem (h : a ∈ before) : Sublist [a, b] (before ++ b :: after) :=
  (List.singleton_sublist.mpr h).append (List.singleton_sublist.mpr List.mem_cons_self)

theorem pair_sublist_asymm (hnodup : ws.Nodup) (h : Sublist [a, b] ws) : ¬Sublist [b, a] ws := by
  intro h'
  obtain ⟨before, after, rfl⟩ := List.append_of_mem (h.subset (by simp : b ∈ [a, b]))
  have ha := mem_of_pair_sublist hnodup h
  obtain ⟨before', after', rfl⟩ := List.append_of_mem ha
  rw [List.append_assoc, List.cons_append] at hnodup h'
  have hb := mem_of_pair_sublist hnodup h'
  have hdisjoint := (List.nodup_append.mp hnodup).2.2
  exact hdisjoint b hb b (by simp) rfl

theorem pair_sublist_or (ha : a ∈ ws) (hb : b ∈ ws) (hne : a ≠ b) : Sublist [a, b] ws ∨ Sublist [b, a] ws := by
  obtain ⟨before, after, rfl⟩ := List.append_of_mem hb
  obtain ha | ha | ha : a ∈ before ∨ a = b ∨ a ∈ after := by simpa using ha
  · exact .inl (pair_sublist_of_mem ha)
  · exact absurd ha hne
  · refine .inr (Sublist.trans ?_ (List.sublist_append_right before _))
    exact (List.singleton_sublist.mpr ha).cons_cons b

end Places

/-! ## Shadows -/

/-- A window that takes no time starts together with `b` and stands before it. -/
def Window.Shadowed (ws : List Window) (b : Window) : Prop :=
  ∃ z, Sublist [z, b] ws ∧ z.start = b.start ∧ z.finish = b.start

variable {ws : List Window} {a b c : Window}

/-- No link leads into a shadow. -/
theorem Window.Linked.not_shadowed (h : InOrder ws) (hab : Linked ws a b) : ¬Shadowed ws b := by
  rintro ⟨z, hz, hstart, hfinish⟩
  obtain ⟨before, between, after, rfl, hfollow, hbetween⟩ := hab
  obtain ⟨hle, hlt, -⟩ := Window.mayFollow_iff.mp hfollow
  have hsplit : before ++ a :: (between ++ b :: after) = (before ++ a :: between) ++ b :: after := by simp
  have hmem : z ∈ before ++ a :: between := by
    have hnodup := h.nodup
    rw [hsplit] at hz hnodup
    exact mem_of_pair_sublist hnodup hz
  obtain ⟨-, -, hcross⟩ := List.pairwise_append.mp h.starts
  obtain hz | hz | hz : z ∈ before ∨ z = a ∨ z ∈ between := by simpa using hmem
  · have hza : z.start ≤ a.start := hcross z hz a List.mem_cons_self
    exact absurd (hstart ▸ hza) (not_le.mpr hlt)
  · exact absurd (hz ▸ hstart) hlt.ne
  · -- The shadow may follow `a` itself, and then `b` comes too late.
    have hid : z.id ≠ a.id := by
      intro hid
      have heq : z = a := h.eq_of_id (by simp [hz]) (by simp) hid
      exact absurd (heq ▸ hstart) hlt.ne
    have hend := hbetween z hz (Window.mayFollow_iff.mpr ⟨hstart ▸ hle, hstart ▸ hlt, hid⟩)
    exact absurd hfinish hend.ne'

/-- Out of every shadow there is a window that starts as early and ends no later. -/
theorem exists_not_shadowed (h : InOrder ws) (hproper : ∀ w ∈ ws, w.start ≤ w.finish) (hb : b ∈ ws) :
    ∃ c ∈ ws, ¬Shadowed ws c ∧ c.start = b.start ∧ c.finish ≤ b.finish := by
  by_cases hshadow : Shadowed ws b
  · obtain ⟨z, hz, hstart, hfinish⟩ := hshadow
    -- The first of those that cast the shadow stands in none.
    let p : Window → Bool := fun w => decide (w.start = b.start) && decide (w.finish = b.start)
    have hp : ∀ w, p w = true ↔ w.start = b.start ∧ w.finish = b.start := by simp [p]
    obtain ⟨c, rest, hfilter⟩ : ∃ c rest, ws.filter p = c :: rest := by
      apply List.exists_cons_of_ne_nil
      exact List.ne_nil_of_mem (List.mem_filter.mpr ⟨hz.subset (by simp), (hp z).mpr ⟨hstart, hfinish⟩⟩)
    have hc : c ∈ ws.filter p := by simp [hfilter]
    obtain ⟨hmem, hpc⟩ := List.mem_filter.mp hc
    obtain ⟨hcstart, hcfinish⟩ := (hp c).mp hpc
    refine ⟨c, hmem, ?_, hcstart, hcfinish.trans_le (hproper b hb)⟩
    rintro ⟨z', hz', hstart', hfinish'⟩
    have hpz' : p z' = true := (hp z').mpr ⟨hstart'.trans hcstart, hfinish'.trans hcstart⟩
    have hsub : Sublist [z', c] (ws.filter p) := by
      have hkept : [z', c].filter p = [z', c] := by simp [hpz', hpc]
      rw [← hkept]
      exact hz'.filter p
    have hnodup : (ws.filter p).Nodup := h.nodup.filter p
    rw [hfilter, ← List.nil_append (c :: rest)] at hsub hnodup
    exact List.not_mem_nil (mem_of_pair_sublist hnodup hsub)
  · exact ⟨b, hb, hshadow, rfl, le_refl _⟩

/-! ## Reaching what is skipped -/

/-- The windows that start after `a`, up to the start of `b`. -/
def Window.startingBetween (ws : List Window) (a b : Window) : List Window :=
  ws.filter fun w => decide (a.start < w.start) && decide (w.start ≤ b.start)

theorem Window.length_startingBetween_lt {d w : Window} (hac : a.start ≤ c.start) (hdb : d.start ≤ b.start)
    (hw : w ∈ startingBetween ws a b) (hnot : w ∉ startingBetween ws c d) :
    (startingBetween ws c d).length < (startingBetween ws a b).length := by
  have hsub : Sublist (startingBetween ws c d) (startingBetween ws a b) := by
    refine List.monotone_filter_right ws fun x hx => ?_
    simp only [Bool.and_eq_true, decide_eq_true_eq] at hx ⊢
    exact ⟨hac.trans_lt hx.1, hx.2.trans hdb⟩
  refine lt_of_le_of_ne hsub.length_le fun hlength => ?_
  exact hnot (hsub.eq_of_length hlength ▸ hw)

/-- Whatever `a` precedes is reached from it unless it stands in a shadow. -/
theorem transGen_of_precedes (h : InOrder ws) (hproper : ∀ w ∈ ws, w.start ≤ w.finish) (ha : a ∈ ws)
    (hb : b ∈ ws) (hle : a.finish ≤ b.start) (hlt : a.start < b.start) (hclear : ¬Shadowed ws b) :
    Relation.TransGen (Linked ws) a b := by
  induction hn : (startingBetween ws a b).length using Nat.strong_induction_on generalizing a b with
  | _ n ih =>
    obtain ⟨before, between, after, hws⟩ := h.exists_between ha hb hlt
    have hid : b.id ≠ a.id := fun hid => hlt.ne' (congrArg Window.start (h.eq_of_id hb ha hid))
    by_cases hskipped : ∃ k ∈ between, a.mayFollow k = true ∧ k.finish ≤ b.start
    · obtain ⟨k, hk, hfollow, hkb⟩ := hskipped
      obtain ⟨hak, hak', -⟩ := Window.mayFollow_iff.mp hfollow
      have hkmem : k ∈ ws := by simp [hws, hk]
      have hkstart : k.start < b.start := by
        refine lt_of_le_of_ne ((hproper k hkmem).trans hkb) fun heq => hclear ⟨k, ?_, heq, ?_⟩
        · have hsub : Sublist [k, b] ((before ++ a :: between) ++ b :: after) :=
            pair_sublist_of_mem (by simp [hk])
          simpa [hws] using hsub
        · exact le_antisymm hkb (heq ▸ hproper k hkmem)
      -- `k` may itself stand in a shadow; then what casts it does as well.
      obtain ⟨c, hc, hcclear, hcstart, hcfinish⟩ := exists_not_shadowed h hproper hkmem
      rw [← hcstart] at hak hak' hkstart
      refine Relation.TransGen.trans (ih _ ?_ ha hc hak hak' hcclear rfl)
        (ih _ ?_ hc hb (hcfinish.trans hkb) hkstart hclear rfl)
      · rw [← hn]
        apply length_startingBetween_lt (w := b) le_rfl hkstart.le
        · simp [startingBetween, hb, hlt]
        · simp [startingBetween, hkstart]
      · rw [← hn]
        apply length_startingBetween_lt (w := c) hak'.le le_rfl
        · simp [startingBetween, hc, hak', hkstart.le]
        · simp [startingBetween]
    · refine .single ⟨before, between, after, hws, Window.mayFollow_iff.mpr ⟨hle, hlt, hid⟩, ?_⟩
      intro k hk hfollow
      by_contra hkb
      exact hskipped ⟨k, hk, hfollow, not_lt.mp hkb⟩

theorem Window.Linked.precedes (hab : Linked ws a b) : a.finish ≤ b.start ∧ a.start < b.start := by
  obtain ⟨-, -, -, -, hfollow, -⟩ := hab
  obtain ⟨hle, hlt, -⟩ := Window.mayFollow_iff.mp hfollow
  exact ⟨hle, hlt⟩

/-- The windows that the links lead to start strictly later, and not before the first has ended. -/
theorem Window.precedes_of_transGen (hpath : Relation.TransGen (Linked ws) a b) :
    a.finish ≤ b.start ∧ a.start < b.start := by
  induction hpath with
  | single hab => exact hab.precedes
  | tail _ hcb ih =>
    obtain ⟨hle, hlt⟩ := ih
    obtain ⟨-, hlt'⟩ := hcb.precedes
    exact ⟨hle.trans hlt'.le, hlt.trans hlt'⟩

/-- A window is reached from those that have ended when it starts, unless it stands in a shadow. -/
theorem transGen_linked_iff (h : InOrder ws) (hproper : ∀ w ∈ ws, w.start ≤ w.finish) (ha : a ∈ ws)
    (hb : b ∈ ws) :
    Relation.TransGen (Linked ws) a b ↔ (a.finish ≤ b.start ∧ a.start < b.start) ∧ ¬Shadowed ws b := by
  constructor
  · intro hpath
    obtain ⟨c, -, hcb⟩ := Relation.TransGen.tail'_iff.mp hpath
    exact ⟨precedes_of_transGen hpath, hcb.not_shadowed h⟩
  · rintro ⟨⟨hle, hlt⟩, hclear⟩
    exact transGen_of_precedes h hproper ha hb hle hlt hclear

/-! ## Tasks and links -/

/-- Whether links lead from one task to another, by their identifiers. -/
def LeadsTo (now : Instant) (spans : List Span) : Uuid → Uuid → Prop :=
  Relation.TransGen fun x y => (⟨x, y⟩ : Edge) ∈ link now spans

namespace Span

/-- Whether a task may come after another as far as the two go: it starts when the other has ended or later,
and strictly after the other's start. -/
def MayFollow (now : Instant) (a b : Span) : Prop :=
  a.finish now ≤ b.startTime ∧ a.startTime < b.startTime

/-- A task that takes no time starts together with `b` and is sorted before it: `b` itself takes some time, or
stands behind it in `spans`. -/
def Shadowed (now : Instant) (spans : List Span) (b : Span) : Prop :=
  ∃ z ∈ spans, z ≠ b ∧ z.startTime = b.startTime ∧ z.finish now = b.startTime ∧
    (b.startTime < b.finish now ∨ Sublist [z, b] spans)

instance (now : Instant) (a b : Span) : Decidable (a.MayFollow now b) :=
  inferInstanceAs (Decidable (_ ∧ _))

instance (now : Instant) (spans : List Span) (b : Span) : Decidable (b.Shadowed now spans) :=
  inferInstanceAs (Decidable (∃ z ∈ spans, _))

end Span

variable {now : Instant} {spans : List Span}

/-- Sorting keeps two windows in their order unless that is the wrong one. -/
theorem pair_sublist_sort {a b : Window} {windows : List Window} (hab : a.notAfter b = true)
    (h : Sublist [a, b] windows) : Sublist [a, b] (Window.sort windows) :=
  List.pair_sublist_mergeSort Window.notAfter_trans Window.notAfter_total hab h

theorem shadowed_sortedWindows (hids : (spans.map Span.id).Nodup)
    (hproper : ∀ s ∈ spans, s.startTime ≤ s.finish now) {b : Span} (hb : b ∈ spans) :
    Shadowed (sortedWindows now spans) (Window.ofSpan now b) ↔ b.Shadowed now spans := by
  have horder : InOrder (sortedWindows now spans) := inOrder_sortedWindows hids
  have hnodup := horder.nodup
  have hsorted : ∀ {x y : Span}, (Window.ofSpan now x).notAfter (Window.ofSpan now y) = true →
      Sublist [x, y] spans → Sublist [Window.ofSpan now x, Window.ofSpan now y] (sortedWindows now spans) :=
    fun hxy h => pair_sublist_sort hxy (h.map (Window.ofSpan now))
  constructor
  · rintro ⟨w, hw, hstart, hfinish⟩
    obtain ⟨z, hz, rfl⟩ := mem_sortedWindows.mp (hw.subset List.mem_cons_self)
    have hne : z ≠ b := by
      rintro rfl
      exact pair_sublist_asymm hnodup hw hw
    refine ⟨z, hz, hne, hstart, hfinish, ?_⟩
    by_cases hlt : b.startTime < b.finish now
    · exact .inl hlt
    · right
      refine (pair_sublist_or hz hb hne).resolve_right fun hbz => ?_
      have hbefore : (Window.ofSpan now b).notAfter (Window.ofSpan now z) = true :=
        Window.notAfter_iff.mpr (.inr ⟨hstart.symm, (not_lt.mp hlt).trans hfinish.ge⟩)
      exact pair_sublist_asymm hnodup hw (hsorted hbefore hbz)
  · rintro ⟨z, hz, hne, hstart, hfinish, hfirst⟩
    refine ⟨Window.ofSpan now z, ?_, hstart, hfinish⟩
    have hwne : Window.ofSpan now z ≠ Window.ofSpan now b := fun heq =>
      hne (List.inj_on_of_nodup_map hids hz hb (congrArg Window.id heq))
    refine (pair_sublist_or (ofSpan_mem_sortedWindows hz) (ofSpan_mem_sortedWindows hb) hwne).elim id
      fun hbz => ?_
    have hle : b.finish now ≤ b.startTime := by
      obtain hlt | ⟨-, hle⟩ := Window.notAfter_iff.mp (List.pairwise_iff_forall_sublist.mp horder.sorted hbz)
      · exact absurd hstart hlt.ne'
      · exact le_of_le_of_eq hle hfinish
    have hzb := hfirst.resolve_left (not_lt.mpr hle)
    refine hsorted (Window.notAfter_iff.mpr (.inr ⟨hstart, ?_⟩)) hzb
    exact le_of_eq_of_le hfinish (hproper b hb)

theorem leadsTo_iff_transGen (hids : (spans.map Span.id).Nodup) {a b : Window}
    (ha : a ∈ sortedWindows now spans) (hb : b ∈ sortedWindows now spans) :
    LeadsTo now spans a.id b.id ↔ Relation.TransGen (Linked (sortedWindows now spans)) a b := by
  have horder : InOrder (sortedWindows now spans) := inOrder_sortedWindows hids
  constructor
  · intro hpath
    have hreached : ∃ c, c.id = b.id ∧ c ∈ sortedWindows now spans ∧
        Relation.TransGen (Linked (sortedWindows now spans)) a c := by
      generalize b.id = y at hpath
      induction hpath with
      | single hedge =>
        obtain ⟨a', c, hac, heq⟩ := mem_link.mp hedge
        obtain ⟨hid, rfl⟩ := Edge.mk.inj heq
        obtain rfl := horder.eq_of_id ha hac.mem.1 hid
        exact ⟨c, rfl, hac.mem.2, .single hac⟩
      | tail _ hedge ih =>
        obtain ⟨d, rfl, hd, had⟩ := ih
        obtain ⟨d', c, hdc, heq⟩ := mem_link.mp hedge
        obtain ⟨hid, rfl⟩ := Edge.mk.inj heq
        obtain rfl := horder.eq_of_id hd hdc.mem.1 hid
        exact ⟨c, rfl, hdc.mem.2, had.tail hdc⟩
    obtain ⟨c, hid, hc, hac⟩ := hreached
    obtain rfl := horder.eq_of_id hc hb hid
    exact hac
  · intro hpath
    rw [LeadsTo]
    exact hpath.lift Window.id fun c d hcd => mem_link.mpr ⟨c, d, hcd, rfl⟩

/-- No link leads to a task in a shadow. -/
theorem not_leadsTo_of_shadowed (hids : (spans.map Span.id).Nodup)
    (hproper : ∀ s ∈ spans, s.startTime ≤ s.finish now) {b : Span} (hb : b ∈ spans)
    (hshadow : b.Shadowed now spans) (x : Uuid) : ¬LeadsTo now spans x b.id := by
  intro hpath
  have horder : InOrder (sortedWindows now spans) := inOrder_sortedWindows hids
  obtain ⟨y, -, hedge⟩ := Relation.TransGen.tail'_iff.mp hpath
  obtain ⟨c, d, hcd, heq⟩ := mem_link.mp hedge
  obtain rfl := horder.eq_of_id (ofSpan_mem_sortedWindows hb) hcd.mem.2 (Edge.mk.inj heq).2
  exact hcd.not_shadowed horder ((shadowed_sortedWindows hids hproper hb).mpr hshadow)

/-- Where no task ends before it starts, links lead from a task to exactly those that may follow it and do not
stand in a shadow. -/
theorem leadsTo_iff_mayFollow (hids : (spans.map Span.id).Nodup)
    (hproper : ∀ s ∈ spans, s.startTime ≤ s.finish now) {a b : Span} (ha : a ∈ spans) (hb : b ∈ spans) :
    LeadsTo now spans a.id b.id ↔ a.MayFollow now b ∧ ¬b.Shadowed now spans := by
  have horder : InOrder (sortedWindows now spans) := inOrder_sortedWindows hids
  have ha' : Window.ofSpan now a ∈ sortedWindows now spans := ofSpan_mem_sortedWindows ha
  have hb' : Window.ofSpan now b ∈ sortedWindows now spans := ofSpan_mem_sortedWindows hb
  have hwindows : ∀ w ∈ sortedWindows now spans, w.start ≤ w.finish := by
    intro w hw
    obtain ⟨s, hs, rfl⟩ := mem_sortedWindows.mp hw
    exact hproper s hs
  have hpath := transGen_linked_iff horder hwindows ha' hb'
  rw [← leadsTo_iff_transGen hids ha' hb', shadowed_sortedWindows hids hproper hb] at hpath
  exact hpath

/-- A task in a shadow is not reached, but one that comes after both is. -/
theorem leadsTo_past_shadow :
    let t (s : Fin 86400) : Instant := ⟨⟨2026, 1, 1, by decide⟩, s, 0, s.isLt, .inl (by decide)⟩
    let task (d : Fin 16) (start finish : Fin 86400) : Span :=
      ⟨⟨List.replicate 32 d, rfl⟩, t start, some (t finish)⟩
    let a := task 0 0 5
    let b := task 1 10 12
    let c := task 2 10 10
    let d := task 3 12 12
    let spans := [a, b, c, d]
    (spans.map Span.id).Nodup ∧ (∀ s ∈ spans, s.startTime ≤ s.finish (t 40)) ∧
      LeadsTo (t 40) spans a.id d.id ∧ ¬LeadsTo (t 40) spans a.id b.id := by
  intro t task a b c d spans
  have hids : (spans.map Span.id).Nodup := by decide
  have hproper : ∀ s ∈ spans, s.startTime ≤ s.finish (t 40) := by decide
  refine ⟨hids, hproper, ?_, ?_⟩
  · exact (leadsTo_iff_mayFollow hids hproper (by decide) (by decide)).mpr (by decide)
  · exact fun h => absurd ((leadsTo_iff_mayFollow hids hproper (by decide) (by decide)).mp h) (by decide)

/-- A task that starts together with one that takes no time may follow another and still not be reached from
it: being allowed to follow is not enough. -/
theorem mayFollow_not_leadsTo :
    let t (s : Fin 86400) : Instant := ⟨⟨2026, 1, 1, by decide⟩, s, 0, s.isLt, .inl (by decide)⟩
    let task (d : Fin 16) (start finish : Fin 86400) : Span :=
      ⟨⟨List.replicate 32 d, rfl⟩, t start, some (t finish)⟩
    let a := task 0 0 5
    let b := task 1 10 12
    let c := task 2 10 10
    let spans := [a, b, c]
    (spans.map Span.id).Nodup ∧ (∀ s ∈ spans, s.startTime ≤ s.finish (t 40)) ∧
      a.MayFollow (t 40) b ∧ ¬LeadsTo (t 40) spans a.id b.id := by
  intro t task a b c spans
  have hids : (spans.map Span.id).Nodup := by decide
  have hproper : ∀ s ∈ spans, s.startTime ≤ s.finish (t 40) := by decide
  refine ⟨hids, hproper, by decide, ?_⟩
  exact not_leadsTo_of_shadowed hids hproper (b := b) (by decide) (by decide) a.id

end RunWatch
