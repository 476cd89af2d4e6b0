import RunWatch.Proofs.TaskGraph.Links

/-!
# Links and the interval order

One task comes before another if it has ended when the other starts.  Where every task takes some time this
is an order, and what fits in between two tasks also starts between them, so `Linked` windows are those that
have nothing in between in this order: the links are its covering relation (`links_are_covers`).
-/

namespace RunWatch

open Window

namespace Span

/-- Whether a task has ended when another starts. -/
def Precedes (now : Instant) (a b : Span) : Prop :=
  a.finish now ≤ b.startTime

/-- Whether a task comes right before another: none of `spans` comes in between. -/
def Covers (now : Instant) (spans : List Span) (a b : Span) : Prop :=
  a.Precedes now b ∧ ¬∃ c ∈ spans, a.Precedes now c ∧ c.Precedes now b

instance (now : Instant) (a b : Span) : Decidable (a.Precedes now b) :=
  inferInstanceAs (Decidable (_ ≤ _))

instance (now : Instant) (spans : List Span) (a b : Span) : Decidable (a.Covers now spans b) :=
  inferInstanceAs (Decidable (_ ∧ ¬∃ c ∈ spans, _))

end Span

/-- Windows that take some time are linked if one comes right before the other. -/
theorem Window.InOrder.linked_iff {ws : List Window} (h : InOrder ws) (hproper : ∀ w ∈ ws, w.start < w.finish)
    {a b : Window} (ha : a ∈ ws) (hb : b ∈ ws) :
    Linked ws a b ↔ a.finish ≤ b.start ∧ ¬∃ c ∈ ws, a.finish ≤ c.start ∧ c.finish ≤ b.start := by
  constructor
  · rintro ⟨before, between, after, rfl, hfollow, hbetween⟩
    obtain ⟨hab, -⟩ := Window.mayFollow_iff.mp hfollow
    refine ⟨hab, ?_⟩
    rintro ⟨c, hc, hac, hcb⟩
    have hlt : a.start < c.start := (hproper a ha).trans_le hac
    have hmem : c ∈ between := h.mem_between hc hlt ((hproper c hc).trans_le hcb)
    have hid : c.id ≠ a.id := fun hid => hlt.ne' (congrArg Window.start (h.eq_of_id hc ha hid))
    exact (hbetween c hmem (Window.mayFollow_iff.mpr ⟨hac, hlt, hid⟩)).not_ge hcb
  · rintro ⟨hab, hnone⟩
    have hlt : a.start < b.start := (hproper a ha).trans_le hab
    have hid : b.id ≠ a.id := fun hid => hlt.ne' (congrArg Window.start (h.eq_of_id hb ha hid))
    obtain ⟨before, between, after, rfl⟩ := h.exists_between ha hb hlt
    refine ⟨before, between, after, rfl, Window.mayFollow_iff.mpr ⟨hab, hlt, hid⟩, fun k hk hfollow => ?_⟩
    by_contra hle
    exact hnone ⟨k, by simp [hk], (Window.mayFollow_iff.mp hfollow).1, not_lt.mp hle⟩

variable {now : Instant} {spans : List Span}

theorem mem_link_iff_covers (hids : (spans.map Span.id).Nodup)
    (hproper : ∀ s ∈ spans, s.startTime < s.finish now) {e : Edge} :
    e ∈ link now spans ↔ ∃ a ∈ spans, ∃ b ∈ spans, a.Covers now spans b ∧ e = ⟨a.id, b.id⟩ := by
  have horder : InOrder (sortedWindows now spans) := inOrder_sortedWindows hids
  have hwindows : ∀ w ∈ sortedWindows now spans, w.start < w.finish := by
    intro w hw
    obtain ⟨s, hs, rfl⟩ := mem_sortedWindows.mp hw
    exact hproper s hs
  have hlinked : ∀ a ∈ spans, ∀ b ∈ spans,
      Linked (sortedWindows now spans) (Window.ofSpan now a) (Window.ofSpan now b) ↔ a.Covers now spans b := by
    intro a ha b hb
    rw [horder.linked_iff hwindows (ofSpan_mem_sortedWindows ha) (ofSpan_mem_sortedWindows hb)]
    refine and_congr_right fun _ => not_congr ?_
    constructor
    · rintro ⟨w, hw, h⟩
      obtain ⟨c, hc, rfl⟩ := mem_sortedWindows.mp hw
      exact ⟨c, hc, h⟩
    · rintro ⟨c, hc, h⟩
      exact ⟨Window.ofSpan now c, ofSpan_mem_sortedWindows hc, h⟩
  constructor
  · intro he
    obtain ⟨a, ha, b, hb, hab, rfl⟩ := exists_linked_of_mem_link he
    exact ⟨a, ha, b, hb, (hlinked a ha b hb).mp hab, rfl⟩
  · rintro ⟨a, ha, b, hb, hab, rfl⟩
    exact mem_link.mpr ⟨_, _, (hlinked a ha b hb).mpr hab, rfl⟩

/-- Where every task takes some time, the links between distinct tasks are the covering relation of the
interval order, each link once, and it makes no difference in which order the tasks are given. -/
theorem links_are_covers (hids : (spans.map Span.id).Nodup)
    (hproper : ∀ s ∈ spans, s.startTime < s.finish now) :
    (link now spans).Nodup ∧
    (∀ e, e ∈ link now spans ↔ ∃ a ∈ spans, ∃ b ∈ spans, a.Covers now spans b ∧ e = ⟨a.id, b.id⟩) ∧
    (∀ a ∈ spans, ∀ b ∈ spans, ⟨a.id, b.id⟩ ∈ link now spans ↔ a.Covers now spans b) ∧
    ∀ spans', spans'.Perm spans → (link now spans').Perm (link now spans) := by
  have hmem : ∀ e, e ∈ link now spans ↔
      ∃ a ∈ spans, ∃ b ∈ spans, a.Covers now spans b ∧ e = ⟨a.id, b.id⟩ :=
    fun e => mem_link_iff_covers hids hproper
  refine ⟨nodup_link hids, hmem, ?_, ?_⟩
  · intro a ha b hb
    rw [hmem]
    constructor
    · rintro ⟨a', ha', b', hb', hcovers, heq⟩
      obtain ⟨hida, hidb⟩ := Edge.mk.inj heq
      obtain rfl := List.inj_on_of_nodup_map hids ha ha' hida
      obtain rfl := List.inj_on_of_nodup_map hids hb hb' hidb
      exact hcovers
    · exact fun hcovers => ⟨a, ha, b, hb, hcovers, rfl⟩
  · intro spans' hperm
    have hids' : (spans'.map Span.id).Nodup := (hperm.map Span.id).nodup_iff.mpr hids
    have hproper' : ∀ s ∈ spans', s.startTime < s.finish now := fun s hs => hproper s (hperm.mem_iff.mp hs)
    refine (List.perm_ext_iff_of_nodup (nodup_link hids') (nodup_link hids)).mpr fun e => ?_
    rw [hmem, mem_link_iff_covers hids' hproper']
    simp only [Span.Covers, hperm.mem_iff]

/-- Of two tasks that follow one another the first hides the second, and a running one hides nothing. -/
theorem covered_task_not_linked :
    let t (s : Fin 86400) : Instant := ⟨⟨2026, 1, 1, by decide⟩, s, 0, s.isLt, .inl (by decide)⟩
    let task (d : Fin 16) (start : Fin 86400) (finish : Option (Fin 86400)) : Span :=
      ⟨⟨List.replicate 32 d, rfl⟩, t start, finish.map t⟩
    let a := task 0 0 (some 10)
    let b := task 1 10 none
    let c := task 2 20 (some 25)
    let d := task 3 25 (some 30)
    let spans := [d, a, c, b]
    (spans.map Span.id).Nodup ∧ (∀ s ∈ spans, s.startTime < s.finish (t 40)) ∧
      ⟨a.id, b.id⟩ ∈ link (t 40) spans ∧ ⟨a.id, c.id⟩ ∈ link (t 40) spans ∧
      ⟨a.id, d.id⟩ ∉ link (t 40) spans := by
  intro t task a b c d spans
  have hids : (spans.map Span.id).Nodup := by decide
  have hproper : ∀ s ∈ spans, s.startTime < s.finish (t 40) := by decide
  have hcovers := (links_are_covers hids hproper).2.2.1
  refine ⟨hids, hproper, ?_, ?_, ?_⟩
  · exact (hcovers a (by decide) b (by decide)).mpr (by decide)
  · exact (hcovers a (by decide) c (by decide)).mpr (by decide)
  · exact fun h => absurd ((hcovers a (by decide) d (by decide)).mp h) (by decide)

end RunWatch
