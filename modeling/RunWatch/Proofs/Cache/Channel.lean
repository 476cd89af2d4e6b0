import Mathlib.Data.List.Induction
import RunWatch.Cache.Fault
import RunWatch.Cache.Published
import RunWatch.Proofs.Cache.Tickets
import RunWatch.Proofs.Ensemble.Outdated
import RunWatch.Proofs.Ensemble.Splits

/-!
# Guarded channels

A search and a task graph come to be shown in the same way: a ticket of a desk is taken, the platform is asked, and what
it brings is shown if the ticket is still good.  `Channel` says what the two have in common, and `Channel.Use` how the
moves of a history use a channel: some ask, some clear it, and all others leave it alone.

The invariant is `Channel.Use.Kept`: the desk has counted the moves that ask and clear, what was asked for in some place
is worked on there with the ticket taken then, and the other parties leave the channel alone.  From it, `Lands` says on
the history alone when a move brings something that counts, and what is shown is what has landed since the channel was
last cleared, joined in the order in which it was asked for (`Channel.Use.exists_landings`).
-/

namespace RunWatch

variable {S α Q X V M : Type}

/-- Work that converses with the platform and then either fails or settles what it has found. -/
inductive Activity.Settles (fits : X → Prop) (settle : X → S → S) (failed : CacheFault → α) (done : X → α) :
    Activity S α → Prop
  | failed (fault : CacheFault) : Settles fits settle failed done (.finished (failed fault))
  | settled {x : X} (h : fits x) : Settles fits settle failed done (.touching (settle x) fun _ => .finished (done x))
  | asking {request : Api.Request} {next : Api.Reply → Activity S α}
      (h : ∀ reply, Settles fits settle failed done (next reply)) :
      Settles fits settle failed done (.asking request next)
  | noting {entry : LogEntry} {next : Activity S α} (h : Settles fits settle failed done next) :
      Settles fits settle failed done (.noting entry next)

/-- Such work either waits for another reply, or fails, or settles; only the last touches the state. -/
theorem Activity.Settles.advance {fits : X → Prop} {settle : X → S → S} {failed : CacheFault → α} {done : X → α}
    {a : Activity S α} (h : a.Settles fits settle failed done) (s : S) :
    (∃ request next, a.advance s = (s, .awaiting request next) ∧
      ∀ reply, (next reply).Settles fits settle failed done) ∨
    (∃ fault, a.advance s = (s, .ended (failed fault))) ∨
    ∃ x, fits x ∧ a.advance s = (settle x s, .ended (done x)) := by
  induction h with
  | failed fault => exact .inr (.inl ⟨fault, rfl⟩)
  | settled hx => exact .inr (.inr ⟨_, hx, rfl⟩)
  | asking h => exact .inl ⟨_, _, rfl, h⟩
  | noting _ ih => exact ih

/-- A conversation settles what it finds if everything that it can come to does. -/
theorem Activity.settles_ofDialogue {β γ : Type} {fits : X → Prop} {settle : X → S → S} {failed : CacheFault → α}
    {done : X → α} {f : γ → Activity S β} {g : β → Activity S α}
    (h : ∀ answer, ((f answer).bind g).Settles fits settle failed done) (d : Api.Dialogue γ) :
    (((Activity.ofDialogue d).bind f).bind g).Settles fits settle failed done := by
  induction d with
  | answer a => exact h a
  | ask request next ih => exact .asking ih
  | note entry rest ih => exact .noting ih

/-- A published value that a desk guards.  Asking with a `Q` brings an `X`, which is joined to the value. -/
structure Channel (S α Q X V : Type) where
  desk : S → TicketDesk
  shown : S → Published V
  /-- What is shown when the channel has been cleared. -/
  empty : V
  join : Q → X → V → V
  /-- What asking can bring. -/
  fits : Q → X → Prop
  settle : Ticket → Q → X → S → S
  /-- What a party comes to that has failed, and one that has brought something. -/
  failed : CacheFault → α
  done : X → α
  settle_desk : ∀ t q x s, desk (settle t q x s) = desk s
  settle_shown : ∀ t q x s, shown (settle t q x s) =
    if (desk s).isCurrent t then (shown s).publish (join q x (shown s).value) else shown s
  done_injective : ∀ x y, done x = done y → x = y
  done_ne_failed : ∀ x fault, done x ≠ failed fault

namespace Channel

/-- What is left to do for something that was asked for with some ticket. -/
def Working (ch : Channel S α Q X V) (t : Ticket) (q : Q) (a : Activity S α) : Prop :=
  a.Settles (ch.fits q) (ch.settle t q) ch.failed ch.done

theorem working_steady (ch : Channel S α Q X V) (t : Ticket) (q : Q) : Ensemble.Steady (ch.Working t q) := by
  intro a ha s
  obtain ⟨request, next, h, hnext⟩ | ⟨fault, h⟩ | ⟨x, -, h⟩ := ha.advance s
  · rw [h]
    exact Party.continues_awaiting hnext
  · rw [h]
    exact Party.continues_ended _ _
  · rw [h]
    exact Party.continues_ended _ _

/-- A change that leaves a channel alone. -/
def Keeps (ch : Channel S α Q X V) (change : S → S) : Prop :=
  ∀ s, ch.desk (change s) = ch.desk s ∧ ch.shown (change s) = ch.shown s

/-- So does work all of whose changes do. -/
theorem keeps_advance {ch : Channel S α Q X V} {a : Activity S α} (ha : a.Each ch.Keeps) :
    ch.Keeps fun s => (a.advance s).1 := by
  intro s
  have hkeeps : ∀ change, ch.Keeps change → ∀ t, ch.desk t = ch.desk s ∧ ch.shown t = ch.shown s →
      ch.desk (change t) = ch.desk s ∧ ch.shown (change t) = ch.shown s := by
    rintro change hchange t ⟨hdesk, hshown⟩
    obtain ⟨hdesk', hshown'⟩ := hchange t
    exact ⟨hdesk'.trans hdesk, hshown'.trans hshown⟩
  exact ha.advance hkeeps ⟨rfl, rfl⟩

/-- How the moves of a history use a channel. -/
structure Use (ch : Channel S α Q X V) (M : Type) where
  occurrence : M → Occurrence S α
  /-- What a move asks for. -/
  asks? : M → Option Q
  clears : M → Bool
  asking : ∀ m q, asks? m = some q → ∃ a, occurrence m = .enters a ∧ ∀ s,
    ch.desk (a.advance s).1 = (ch.desk s).list.1 ∧ ch.shown (a.advance s).1 = ch.shown s ∧
      (a.advance s).2.result? = none ∧ (a.advance s).2.Continues (ch.Working (ch.desk s).list.2 q)
  clearing : ∀ m, clears m = true → ∃ change, occurrence m = .passes change ∧ ∀ s,
    ch.desk (change s) = (ch.desk s).invalidate ∧ ch.shown (change s) = (ch.shown s).publish ch.empty
  idling : ∀ m, asks? m = none → clears m = false → (occurrence m).Makes ch.Keeps

namespace Use

variable {ch : Channel S α Q X V} (u : ch.Use M)

/-- The count of parties that some moves bring. -/
def issued (moves : List M) : Nat :=
  moves.countP fun m => (u.occurrence m).isEntry

/-- A state and its parties after some moves. -/
def play (s : S) (moves : List M) : Ensemble S α :=
  (Ensemble.alone s).run (moves.map u.occurrence)

/-- No move asks for anything or clears the channel. -/
def Undisturbed (moves : List M) : Prop :=
  ∀ m ∈ moves, u.asks? m = none ∧ u.clears m = false

/-- What a move is to the desk. -/
def event? (m : M) : Option TicketDesk.Event :=
  if (u.asks? m).isSome then some .list else if u.clears m then some .invalidate else none

theorem event?_asks {m : M} {q : Q} (h : u.asks? m = some q) : u.event? m = some .list := by
  simp [event?, h]

theorem event?_eq_none {m : M} : u.event? m = none ↔ u.asks? m = none ∧ u.clears m = false := by
  unfold event?
  cases u.asks? m <;> cases u.clears m <;> simp

/-- The desk that counts some moves. -/
def deskAfter (s : S) (moves : List M) : TicketDesk :=
  (ch.desk s).after (moves.filterMap u.event?)

/-- The ticket of what is asked for after some moves. -/
def ticketAfter (s : S) (moves : List M) : Ticket :=
  (u.deskAfter s moves).list.2

theorem deskAfter_append (s : S) (moves later : List M) :
    u.deskAfter s (moves ++ later) = (u.deskAfter s moves).after (later.filterMap u.event?) := by
  rw [deskAfter, List.filterMap_append, TicketDesk.after_append]
  rfl

theorem deskAfter_concat (s : S) (moves : List M) (m : M) :
    u.deskAfter s (moves ++ [m]) = ((u.event? m).elim (u.deskAfter s moves) fun e => ((u.deskAfter s moves).step e).1) := by
  rw [deskAfter_append]
  cases h : u.event? m <;> simp [h, TicketDesk.after]

/-- A ticket is good as long as nothing is asked for or cleared. -/
theorem isCurrent_ticketAfter (s : S) (before between : List M) {m : M} {q : Q} (hm : u.asks? m = some q) :
    (u.deskAfter s (before ++ m :: between)).isCurrent (u.ticketAfter s before) = true ↔ u.Undisturbed between := by
  have hdesk : u.deskAfter s (before ++ m :: between) =
      ((u.deskAfter s before).take true).1.after (between.filterMap u.event?) := by
    rw [deskAfter_append, List.filterMap_cons, u.event?_asks hm]
    rfl
  have hticket : u.ticketAfter s before = ((u.deskAfter s before).take true).2 := rfl
  rw [hdesk, hticket, TicketDesk.isCurrent_take_after]
  simp only [List.mem_filterMap, not_exists, not_and, forall_const]
  constructor
  · rintro ⟨hinvalidate, hlist⟩ m' hm'
    rw [← u.event?_eq_none]
    have hinvalidate := hinvalidate m' hm'
    have hlist := hlist m' hm'
    unfold event? at *
    split at * <;> simp_all
  · intro h
    refine ⟨fun m' hm' heq => ?_, fun m' hm' heq => ?_⟩
    · rw [u.event?_eq_none.mpr (h m' hm')] at heq
      cases heq
    · rw [u.event?_eq_none.mpr (h m' hm')] at heq
      cases heq

/-! ## Histories -/

theorem play_concat (s : S) (moves : List M) (m : M) : u.play s (moves ++ [m]) = (u.play s moves).step (u.occurrence m) :=
  Ensemble.run_map_concat _ u.occurrence moves m

theorem length_play (s : S) (moves : List M) : (u.play s moves).parties.length = u.issued moves :=
  Ensemble.length_run_alone s u.occurrence moves

theorem issued_append (moves later : List M) : u.issued (moves ++ later) = u.issued moves + u.issued later :=
  List.countP_append

theorem isEntry_of_asks {m : M} {q : Q} (h : u.asks? m = some q) : (u.occurrence m).isEntry = true := by
  obtain ⟨a, ha, -⟩ := u.asking m q h
  rw [ha]
  rfl

/-- What holds of a state and its parties after every history. -/
structure Kept (s : S) (moves : List M) : Prop where
  desk : ch.desk (u.play s moves).state = u.deskAfter s moves
  asked : ∀ before m q later, moves = before ++ m :: later → u.asks? m = some q →
    ∃ p, (u.play s moves).parties[u.issued before]? = some p ∧ p.Continues (ch.Working (u.ticketAfter s before) q)
  others : ∀ before m later, moves = before ++ m :: later → u.asks? m = none → (u.occurrence m).isEntry = true →
    ∃ p, (u.play s moves).parties[u.issued before]? = some p ∧ p.Continues (Activity.Each ch.Keeps)

variable {u} {s : S} {moves : List M}

/-- A signal to a party that works on something settles that if it is the last reply and reports success, and leaves
the state alone otherwise. -/
theorem Kept.reach_asked (h : u.Kept s moves) {before later : List M} {m : M} {q : Q}
    (hmoves : moves = before ++ m :: later) (hm : u.asks? m = some q) (signal : Signal) :
    ((((u.play s moves).step (.reaches (u.issued before) signal)).state = (u.play s moves).state) ∧
      ∀ j x, (u.play s moves).ending? (.reaches (u.issued before) signal) ≠ some (j, ch.done x)) ∨
    ∃ x, ch.fits q x ∧ ((u.play s moves).step (.reaches (u.issued before) signal)).state =
        ch.settle (u.ticketAfter s before) q x (u.play s moves).state ∧
      (u.play s moves).ending? (.reaches (u.issued before) signal) = some (u.issued before, ch.done x) := by
  obtain ⟨p, hp, hc⟩ := h.asked before m q later hmoves hm
  cases hon : (u.play s moves).onward? (u.issued before) signal with
  | none =>
    refine .inl ⟨by rw [Ensemble.step_reaches_none hon], fun j x heq => ?_⟩
    rw [Ensemble.ending?, hon] at heq
    cases heq
  | some a =>
    obtain ⟨p', hp', ha⟩ := Ensemble.onward?_eq_some.mp hon
    obtain rfl := Option.some.inj (hp.symm.trans hp')
    rw [Ensemble.step_reaches_some hon, Ensemble.ending?, hon, Option.bind_some, Ensemble.resume]
    obtain ⟨request, next, hadvance, -⟩ | ⟨fault, hadvance⟩ | ⟨x, hx, hadvance⟩ :=
      (hc signal a ha).advance (u.play s moves).state
    · rw [hadvance]
      refine .inl ⟨rfl, fun j x heq => ?_⟩
      cases heq
    · rw [hadvance]
      refine .inl ⟨rfl, fun j x heq => ch.done_ne_failed x fault ?_⟩
      exact (Prod.mk.inj (Option.some.inj heq)).2.symm
    · rw [hadvance]
      exact .inr ⟨x, hx, rfl, rfl⟩

/-- A signal to any other party leaves the channel alone. -/
theorem Kept.reach_other (h : u.Kept s moves) {i : Nat}
    (hother : ∀ before m later, moves = before ++ m :: later → u.issued before = i → (u.occurrence m).isEntry = true →
      u.asks? m = none) (signal : Signal) :
    ch.desk ((u.play s moves).step (.reaches i signal)).state = ch.desk (u.play s moves).state ∧
      ch.shown ((u.play s moves).step (.reaches i signal)).state = ch.shown (u.play s moves).state := by
  cases hon : (u.play s moves).onward? i signal with
  | none =>
    rw [Ensemble.step_reaches_none hon]
    exact ⟨rfl, rfl⟩
  | some a =>
    obtain ⟨p, hp, ha⟩ := Ensemble.onward?_eq_some.mp hon
    have hi : i < u.issued moves := u.length_play s moves ▸ (List.getElem?_eq_some_iff.mp hp).1
    obtain ⟨before, m, later, hmoves, hentry, rfl⟩ := History.exists_split hi
    obtain ⟨p', hp', hc⟩ := h.others before m later hmoves (hother before m later hmoves rfl hentry) hentry
    obtain rfl := Option.some.inj (hp.symm.trans hp')
    rw [Ensemble.step_reaches_some hon]
    exact keeps_advance (hc signal a ha) _

/-- What a move does to the desk, if the invariant holds before it. -/
theorem Kept.desk_concat (h : u.Kept s moves) (m : M) :
    ch.desk (u.play s (moves ++ [m])).state = u.deskAfter s (moves ++ [m]) := by
  rw [play_concat, deskAfter_concat, ← h.desk]
  cases hasks : u.asks? m with
  | some q =>
    obtain ⟨a, ha, hadvance⟩ := u.asking m q hasks
    rw [u.event?_asks hasks, ha]
    exact (hadvance _).1
  | none =>
    cases hclears : u.clears m with
    | true =>
      obtain ⟨change, hchange, hdesk⟩ := u.clearing m hclears
      have hevent : u.event? m = some .invalidate := by simp [event?, hasks, hclears]
      rw [hevent, hchange]
      exact (hdesk _).1
    | false =>
      have hmakes := u.idling m hasks hclears
      rw [u.event?_eq_none.mpr ⟨hasks, hclears⟩, Option.elim_none]
      cases ho : u.occurrence m with
      | enters a =>
        rw [ho] at hmakes
        exact (keeps_advance hmakes _).1
      | passes change =>
        rw [ho] at hmakes
        exact (hmakes _).1
      | reaches i signal =>
        by_cases hi : ∃ before m' q later, moves = before ++ m' :: later ∧ u.issued before = i ∧ u.asks? m' = some q
        · obtain ⟨before, m', q, later, hmoves, rfl, hm'⟩ := hi
          obtain ⟨hstate, -⟩ | ⟨x, -, hstate, -⟩ := h.reach_asked hmoves hm' signal
          · rw [hstate]
          · rw [hstate, ch.settle_desk]
        · refine (h.reach_other (fun before m' later hmoves hissued _ => ?_) signal).1
          by_contra hne
          obtain ⟨q, hq⟩ := Option.ne_none_iff_exists'.mp hne
          exact hi ⟨before, m', q, later, hmoves, hissued, hq⟩

variable (u)

theorem kept (s : S) (moves : List M) : u.Kept s moves := by
  induction moves using List.reverseRecOn with
  | nil =>
    exact ⟨rfl, fun before m q later h => absurd h (by simp), fun before m later h => absurd h (by simp)⟩
  | append_singleton moves m ih =>
    refine ⟨ih.desk_concat m, fun before m' q later h hm' => ?_, fun before m' later h hm' hentry => ?_⟩
    · rw [play_concat]
      obtain ⟨rfl, rfl, rfl⟩ | ⟨later', rfl, rfl⟩ := History.concat_cases h
      · obtain ⟨a, ha, hadvance⟩ := u.asking m q hm'
        rw [ha, ticketAfter, ← ih.desk, ← u.length_play s before]
        exact ⟨_, List.getElem?_concat_length, (hadvance _).2.2.2⟩
      · exact Ensemble.step_stands (ch.working_steady _ q) (ih.asked before m' q later' rfl hm') _
    · rw [play_concat]
      obtain ⟨rfl, rfl, rfl⟩ | ⟨later', rfl, rfl⟩ := History.concat_cases h
      · have hclears : u.clears m = false := by
          by_contra hclears
          obtain ⟨change, hchange, -⟩ := u.clearing m (by simpa using hclears)
          rw [hchange] at hentry
          cases hentry
        have hmakes := u.idling m hm' hclears
        cases ho : u.occurrence m with
        | enters a =>
          rw [ho] at hmakes
          rw [← u.length_play s before]
          exact ⟨_, List.getElem?_concat_length, Activity.each_steady _ a hmakes _⟩
        | reaches i signal =>
          rw [ho] at hentry
          cases hentry
        | passes change =>
          rw [ho] at hentry
          cases hentry
      · exact Ensemble.step_stands (Activity.each_steady ch.Keeps) (ih.others before m' later' rfl hm' hentry) _

/-! ## What is shown -/

/-- A move brings what was asked for in some place, and that counts: nothing has been asked for or cleared since. -/
def Lands (s : S) (moves : List M) (m : M) (i : Nat) (q : Q) (x : X) : Prop :=
  ∃ before m' between, moves = before ++ m' :: between ∧ u.issued before = i ∧ u.asks? m' = some q ∧
    (u.play s moves).ending? (u.occurrence m) = some (i, ch.done x) ∧ u.Undisturbed between

variable {u} {m : M} {i : Nat} {q : Q} {x : X}

/-- What comes to its end in a place where something was asked for has been reached there by a signal. -/
theorem reaches_of_ending? {before between : List M} {m' : M} (hm' : u.asks? m' = some q) {r : α}
    (h : (u.play s (before ++ m' :: between)).ending? (u.occurrence m) = some (u.issued before, r)) :
    ∃ signal, u.occurrence m = .reaches (u.issued before) signal := by
  cases ho : u.occurrence m with
  | enters a =>
    rw [ho, Ensemble.ending?, length_play, issued_append] at h
    obtain ⟨_, -, hplace⟩ := Option.map_eq_some_iff.mp h
    have hone : u.issued (m' :: between) = u.issued between + 1 := List.countP_cons_of_pos (u.isEntry_of_asks hm')
    have hplace := (Prod.mk.inj hplace).1
    omega
  | reaches j signal =>
    rw [ho] at h
    obtain ⟨rfl, -⟩ := Ensemble.ending?_reaches.mp h
    exact ⟨signal, rfl⟩
  | passes change =>
    rw [ho] at h
    cases h

/-- When something that was asked for comes to its end, it is shown if and only if nothing has been asked for or
cleared since. -/
theorem shown_of_ending? {before between : List M} {m' : M} (hm' : u.asks? m' = some q)
    (h : (u.play s (before ++ m' :: between)).ending? (u.occurrence m) = some (u.issued before, ch.done x)) :
    ch.fits q x ∧
    (u.Undisturbed between → ch.shown (u.play s (before ++ m' :: between ++ [m])).state =
      (ch.shown (u.play s (before ++ m' :: between)).state).publish
        (ch.join q x (ch.shown (u.play s (before ++ m' :: between)).state).value)) ∧
    (¬u.Undisturbed between → ch.shown (u.play s (before ++ m' :: between ++ [m])).state =
      ch.shown (u.play s (before ++ m' :: between)).state) := by
  obtain ⟨signal, ho⟩ := reaches_of_ending? hm' h
  have hkept := u.kept s (before ++ m' :: between)
  have hcurrent := u.isCurrent_ticketAfter s before between hm'
  rw [← hkept.desk] at hcurrent
  rw [ho] at h
  obtain ⟨-, hno⟩ | ⟨x', hx', hstate, hending⟩ := hkept.reach_asked rfl hm' signal
  · exact absurd h (hno _ x)
  · obtain rfl := ch.done_injective _ _ (Prod.mk.inj (Option.some.inj (hending.symm.trans h))).2
    rw [play_concat, ho, hstate, ch.settle_shown]
    exact ⟨hx', fun hun => if_pos (hcurrent.mpr hun), fun hun => if_neg (mt hcurrent.mp hun)⟩

theorem Lands.shown (h : u.Lands s moves m i q x) : ch.shown (u.play s (moves ++ [m])).state =
    (ch.shown (u.play s moves).state).publish (ch.join q x (ch.shown (u.play s moves).state).value) := by
  obtain ⟨before, m', between, rfl, rfl, hm', hending, hun⟩ := h
  exact (shown_of_ending? hm' hending).2.1 hun

theorem Lands.clears_eq_false (h : u.Lands s moves m i q x) : u.clears m = false := by
  obtain ⟨before, m', between, rfl, rfl, hm', hending, -⟩ := h
  obtain ⟨signal, ho⟩ := reaches_of_ending? hm' hending
  by_contra hclears
  obtain ⟨change, hchange, -⟩ := u.clearing m (by simpa using hclears)
  rw [hchange] at ho
  cases ho

/-- A move brings one thing at most. -/
theorem Lands.unique (h : u.Lands s moves m i q x) {i' : Nat} {q' : Q} {x' : X} (h' : u.Lands s moves m i' q' x') :
    (i', q', x') = (i, q, x) := by
  obtain ⟨before, m₁, between, rfl, rfl, hm₁, hending, -⟩ := h
  obtain ⟨before', m₂, between', hmoves, rfl, hm₂, hending', -⟩ := h'
  obtain ⟨hplace, hdone⟩ := Prod.mk.inj (Option.some.inj (hending.symm.trans hending'))
  obtain rfl := ch.done_injective _ _ hdone
  obtain rfl := History.eq_of_countP_eq hmoves (u.isEntry_of_asks hm₁) (u.isEntry_of_asks hm₂) hplace
  obtain rfl := Option.some.inj (hm₁.symm.trans hm₂)
  rw [hplace]

/-- A move that clears nothing and brings nothing that counts leaves alone what is shown. -/
theorem shown_of_not_lands (hclears : u.clears m = false) (h : ¬∃ i q x, u.Lands s moves m i q x) :
    ch.shown (u.play s (moves ++ [m])).state = ch.shown (u.play s moves).state := by
  have hkept := u.kept s moves
  rw [play_concat]
  cases hasks : u.asks? m with
  | some q =>
    obtain ⟨a, ha, hadvance⟩ := u.asking m q hasks
    rw [ha]
    exact (hadvance _).2.1
  | none =>
    have hmakes := u.idling m hasks hclears
    cases ho : u.occurrence m with
    | enters a =>
      rw [ho] at hmakes
      exact (keeps_advance hmakes _).2
    | passes change =>
      rw [ho] at hmakes
      exact (hmakes _).2
    | reaches i signal =>
      by_cases hi : ∃ before m' q later, moves = before ++ m' :: later ∧ u.issued before = i ∧ u.asks? m' = some q
      · obtain ⟨before, m', q, later, rfl, rfl, hm'⟩ := hi
        obtain ⟨hstate, -⟩ | ⟨x, -, hstate, hending⟩ := hkept.reach_asked rfl hm' signal
        · rw [hstate]
        · have hdisturbed : ¬u.Undisturbed later := fun hun =>
            h ⟨_, q, x, before, m', later, rfl, rfl, hm', ho ▸ hending, hun⟩
          have hcurrent := mt (u.isCurrent_ticketAfter s before later hm').mp hdisturbed
          rw [← hkept.desk] at hcurrent
          rw [hstate, ch.settle_shown, if_neg hcurrent]
      · refine (hkept.reach_other (fun before m' later hmoves hissued _ => ?_) signal).2
        by_contra hne
        obtain ⟨q, hq⟩ := Option.ne_none_iff_exists'.mp hne
        exact hi ⟨before, m', q, later, hmoves, hissued, hq⟩

/-- Nothing that was asked for before the channel was cleared is shown after it. -/
theorem shown_of_cleared {before later : List M} {c : M} (hcleared : u.clears c = true)
    {signal : Signal} (ho : u.occurrence m = .reaches i signal) (hi : i < u.issued before) :
    ch.shown (u.play s (before ++ c :: later ++ [m])).state = ch.shown (u.play s (before ++ c :: later)).state := by
  have hclears : u.clears m = false := by
    by_contra hclears
    obtain ⟨change, hchange, -⟩ := u.clearing m (by simpa using hclears)
    rw [hchange] at ho
    cases ho
  refine shown_of_not_lands hclears ?_
  rintro ⟨j, q, x, before', m', between, hmoves, rfl, hm', hending, hun⟩
  rw [ho] at hending
  obtain ⟨rfl, -⟩ := Ensemble.ending?_reaches.mp hending
  have hmem := History.mem_later hmoves.symm hi
  exact Bool.noConfusion (hcleared.symm.trans (hun c hmem).2)

/-! ## All that has landed -/

variable (u)

/-- What was asked for in some place has been brought and counted, and the channel has not been cleared since. -/
def Landed (s : S) (moves : List M) (landing : Nat × Q × X) : Prop :=
  ∃ done m rest, moves = done ++ m :: rest ∧ u.Lands s done m landing.1 landing.2.1 landing.2.2 ∧
    ∀ m' ∈ rest, u.clears m' = false

variable {u}

theorem landed_concat {landing : Nat × Q × X} : u.Landed s (moves ++ [m]) landing ↔
    u.Landed s moves landing ∧ u.clears m = false ∨ u.Lands s moves m landing.1 landing.2.1 landing.2.2 := by
  constructor
  · rintro ⟨done, m', rest, hmoves, hlands, hrest⟩
    obtain ⟨rfl, rfl, rfl⟩ | ⟨rest', rfl, rfl⟩ := History.concat_cases hmoves
    · exact .inr hlands
    · refine .inl ⟨⟨done, m', rest', rfl, hlands, fun m'' hm'' => ?_⟩, ?_⟩
      · exact hrest m'' (List.mem_append_left _ hm'')
      · exact hrest m (List.mem_append_right _ List.mem_cons_self)
  · rintro (⟨⟨done, m', rest, rfl, hlands, hrest⟩, hclears⟩ | hlands)
    · refine ⟨done, m', rest ++ [m], List.append_assoc _ _ _, hlands, fun m'' hm'' => ?_⟩
      obtain hm'' | hm'' := List.mem_append.mp hm''
      · exact hrest m'' hm''
      · rw [List.mem_singleton.mp hm'']
        exact hclears
    · exact ⟨moves, m, [], rfl, hlands, nofun⟩

/-- What has landed was brought by a party that has come to its end. -/
theorem Landed.ended {landing : Nat × Q × X} (h : u.Landed s moves landing) :
    ∃ r, (u.play s moves).parties[landing.1]? = some (.ended r) := by
  obtain ⟨done, m', rest, rfl, ⟨before, m'', between, rfl, hi, hm'', hending, -⟩, -⟩ := h
  rw [← hi] at hending ⊢
  obtain ⟨signal, ho⟩ := reaches_of_ending? hm'' hending
  rw [ho] at hending
  induction rest using List.reverseRecOn with
  | nil =>
    rw [play_concat, ho]
    exact ⟨_, Ensemble.parties_of_ending? hending⟩
  | append_singleton rest m ih =>
    obtain ⟨r, hr⟩ := ih
    have hconcat : before ++ m'' :: between ++ m' :: (rest ++ [m]) = before ++ m'' :: between ++ m' :: rest ++ [m] := by
      simp
    rw [hconcat, play_concat]
    exact ⟨r, Ensemble.step_ended hr _⟩

/-- What lands was asked for after all that has landed already. -/
theorem Lands.later (h : u.Lands s moves m i q x) {landing : Nat × Q × X} (hlanded : u.Landed s moves landing) :
    landing.1 < i := by
  obtain ⟨r, hr⟩ := hlanded.ended
  obtain ⟨done, m₁, rest, hmoves₁, ⟨before', m₂, between', hdone, hplace, hm₂, -, -⟩, -⟩ := hlanded
  obtain ⟨before, m', between, rfl, rfl, hm', hending, hun⟩ := h
  have hmoves : before ++ m' :: between = before' ++ m₂ :: (between' ++ m₁ :: rest) := by
    rw [hmoves₁, hdone]
    simp
  by_contra hle
  obtain hlt | heq := Nat.lt_or_eq_of_le (Nat.le_of_not_lt hle)
  · -- It would have been asked for in between.
    rw [← hplace] at hlt
    have hnone := (hun m₂ (History.mem_later hmoves hlt)).1
    cases hnone.symm.trans hm₂
  · -- Its party would have come to its end twice.
    obtain ⟨signal, ho⟩ := reaches_of_ending? hm' hending
    rw [ho] at hending
    obtain ⟨-, a, ha, -⟩ := Ensemble.ending?_reaches.mp hending
    obtain ⟨p, hp, hon⟩ := Ensemble.onward?_eq_some.mp ha
    rw [← heq] at hr
    obtain rfl := Option.some.inj (hr.symm.trans hp)
    exact Party.continues_ended (fun _ => False) r signal a hon

/-- What is shown is what has landed since the channel was last cleared, in the order in which it was asked for. -/
theorem exists_landings (hs : (ch.shown s).value = ch.empty) (moves : List M) :
    ∃ landings : List (Nat × Q × X), landings.Pairwise (fun a b => a.1 < b.1) ∧
      (∀ landing, landing ∈ landings ↔ u.Landed s moves landing) ∧
      (ch.shown (u.play s moves).state).value =
        landings.foldl (fun v landing => ch.join landing.2.1 landing.2.2 v) ch.empty := by
  induction moves using List.reverseRecOn with
  | nil =>
    refine ⟨[], .nil, fun landing => iff_of_false List.not_mem_nil ?_, hs⟩
    rintro ⟨done, m, rest, h, -⟩
    simp at h
  | append_singleton moves m ih =>
    obtain ⟨landings, hsorted, hmem, hvalue⟩ := ih
    by_cases hlands : ∃ i q x, u.Lands s moves m i q x
    · obtain ⟨i, q, x, hlands⟩ := hlands
      refine ⟨landings ++ [(i, q, x)], ?_, fun landing => ?_, ?_⟩
      · refine List.pairwise_append.mpr ⟨hsorted, List.pairwise_singleton _ _, fun landing hlanding new hnew => ?_⟩
        obtain rfl := List.mem_singleton.mp hnew
        exact hlands.later ((hmem landing).mp hlanding)
      · rw [landed_concat, List.mem_append, List.mem_singleton, hmem, and_iff_left hlands.clears_eq_false]
        refine or_congr_right ⟨?_, fun h => hlands.unique h⟩
        rintro rfl
        exact hlands
      · rw [hlands.shown, List.foldl_append, ← hvalue]
        rfl
    · have hno (landing : Nat × Q × X) : ¬u.Lands s moves m landing.1 landing.2.1 landing.2.2 := fun h =>
        hlands ⟨_, _, _, h⟩
      cases hclears : u.clears m with
      | true =>
        obtain ⟨change, hchange, hcleared⟩ := u.clearing m hclears
        refine ⟨[], .nil, fun landing => iff_of_false List.not_mem_nil ?_, ?_⟩
        · rw [landed_concat, hclears]
          rintro (⟨-, h⟩ | h)
          · cases h
          · exact hno landing h
        · rw [play_concat, hchange]
          exact congrArg Published.value (hcleared _).2
      | false =>
        refine ⟨landings, hsorted, fun landing => ?_, ?_⟩
        · rw [landed_concat, hclears, hmem]
          simp [hno]
        · rw [shown_of_not_lands hclears hlands, hvalue]

end Use

end Channel

end RunWatch
