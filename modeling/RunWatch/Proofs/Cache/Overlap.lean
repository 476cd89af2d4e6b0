import Mathlib.Data.List.Induction
import RunWatch.Cache.Work
import RunWatch.Proofs.Api.Answers
import RunWatch.Proofs.Cache.Tickets
import RunWatch.Proofs.Ensemble
import RunWatch.Proofs.Ensemble.Splits

/-!
# Effects that overlap

Any number of effects at work on one cache, whose replies arrive in any order, with changes dispatched and
resets in between.  A history of the cache is a list of `Move`s, and `Cache.play` is the ensemble that it
leads to.

The invariant is `Cache.Kept`: the desk has counted exactly the moves of the history, and the effect issued
at some point stands in its place as what `Cache.complete` makes of the ticket it took there.  From it a
reply is judged by the moves since the issue alone (`Kept.accepts_iff`), and list loads reach the listing in
the order in which they were issued.
-/

namespace RunWatch

/-- Whether a change is what an effect asks for. -/
def Effect.Fits {R : Type} : Effect R → Change R → Prop
  | .getOne _, .gotOne _ => True
  | .findAll _, .foundAll _ => True
  | .loadPage request, .gotPage _ request' => request' = request
  | .createOne _ _, .created _ => True
  | .updateOne _, .updated _ => True
  | .deleteOne id, .deleted d => d.id = id
  | _, _ => False

theorem Effect.Fits.isListLoad {R : Type} {effect : Effect R} {change : Change R}
    (h : effect.Fits change) : change.isListLoad = effect.isListLoad := by
  cases effect <;> cases change <;> first | rfl | exact h.elim

namespace Cache

/-- What an effect comes to: its change, and whether that was applied. -/
abbrev Outcome (R : Type) := Except CacheFault (Change R × Bool)

/-- What can happen to a cache. -/
inductive Move (R : Type) where
  | issue (effect : Effect R)
  /-- A reply arrives for an effect; effects are counted in the order of their issue. -/
  | reply (i : Nat) (reply : Api.Reply)
  | dispatch (change : Change R)
  | reset

namespace Move

variable {R : Type}

/-- A move as it happens among the effects at work. -/
def occurrence [Record R] : Move R → Occurrence (Cache R) (Outcome R)
  | issue effect => .enters (perform effect)
  | reply i r => .reaches i (.reply r)
  | dispatch change => .passes fun c => c.dispatch change
  | reset => .passes fun c => c.reset

/-- The effect that a move issues. -/
def effect? : Move R → Option (Effect R)
  | issue effect => some effect
  | _ => none

theorem effect?_eq_some {m : Move R} {effect : Effect R} :
    m.effect? = some effect ↔ m = issue effect := by
  cases m <;> simp [effect?]

/-- Whether a move issues a list load. -/
def issuesList (m : Move R) : Bool :=
  m.effect?.any Effect.isListLoad

/-- What a move is to the desk. -/
def event? : Move R → Option TicketDesk.Event
  | issue effect => some (.ofTake effect.isListLoad)
  | reset => some .invalidate
  | _ => none

theorem event?_eq_invalidate {m : Move R} : m.event? = some .invalidate ↔ m = reset := by
  cases m with
  | issue effect => cases h : effect.isListLoad <;> simp [event?, TicketDesk.Event.ofTake, h]
  | _ => simp [event?]

theorem event?_eq_list {m : Move R} : m.event? = some .list ↔ m.issuesList = true := by
  cases m with
  | issue effect =>
    cases h : effect.isListLoad <;> simp [event?, issuesList, effect?, TicketDesk.Event.ofTake, h]
  | _ => simp [event?, issuesList, effect?]

end Move

/-- The count of effects issued by some moves. -/
def issued {R : Type} (moves : List (Move R)) : Nat :=
  moves.countP fun m => m.effect?.isSome

/-- Nothing since the issue of an effect takes precedence over it: no reset, and no other list load if it is
one itself. -/
def Unsuperseded {R : Type} (effect : Effect R) (later : List (Move R)) : Prop :=
  Move.reset ∉ later ∧ (effect.isListLoad = true → ∀ m ∈ later, m.issuesList = false)

/-- The place of a list load that was applied. -/
def appliedLoad? {R : Type} : Nat × Outcome R → Option Nat
  | (i, .ok (change, true)) => if change.isListLoad then some i else none
  | _ => none

variable {R : Type} [Record R]

/-- A cache and its effects after some moves. -/
def play (c : Cache R) (moves : List (Move R)) : Ensemble (Cache R) (Outcome R) :=
  (Ensemble.alone c).run (moves.map Move.occurrence)

/-- What the effects come to over some moves, the first result first. -/
def outcomes (c : Cache R) (moves : List (Move R)) : List (Nat × Outcome R) :=
  (Ensemble.alone c).endings (moves.map Move.occurrence)

theorem play_concat (c : Cache R) (moves : List (Move R)) (m : Move R) :
    c.play (moves ++ [m]) = (c.play moves).step m.occurrence :=
  Ensemble.run_map_concat _ Move.occurrence moves m

theorem outcomes_concat (c : Cache R) (moves : List (Move R)) (m : Move R) :
    c.outcomes (moves ++ [m]) =
      c.outcomes moves ++ ((c.play moves).ending? m.occurrence).toList := by
  rw [outcomes, List.map_append, Ensemble.endings_append]
  exact congrArg _ (List.append_nil _)

/-! ## How an effect goes on -/

@[simp] theorem settle_desk (c : Cache R) (t : Ticket) (change : Change R) :
    (c.settle t change).desk = c.desk := by
  rw [settle]
  split <;> rfl

/-- Every effect begins with a request. -/
theorem call_asks (effect : Effect R) (endpoint : Api.Endpoint R) :
    ∃ request, ∃ next : Api.Reply → Api.Call (Change R), effect.call endpoint = .ask request next := by
  cases effect <;> exact ⟨_, _, rfl⟩

/-- An effect comes to a change of its own sort. -/
theorem call_yields (effect : Effect R) (endpoint : Api.Endpoint R) :
    (effect.call endpoint).Yields effect.Fits := by
  cases effect with
  | deleteOne id =>
    intro reply
    cases h : reply.confirm with
    | ok u => simp [Api.Dialogue.bind, Except.map, h, Api.Call.Yields, Effect.Fits]
    | error fault => simp [Api.Dialogue.bind, Except.map, h, Api.Call.Yields]
  | loadPage request => exact Api.Call.yields_map (Api.Call.yields_of_forall (fun _ => rfl) _)
  | getOne id => exact Api.Call.yields_map (Api.Call.yields_of_forall (fun _ => trivial) _)
  | findAll request => exact Api.Call.yields_map (Api.Call.yields_of_forall (fun _ => trivial) _)
  | createOne parent body => exact Api.Call.yields_map (Api.Call.yields_of_forall (fun _ => trivial) _)
  | updateOne r => exact Api.Call.yields_map (Api.Call.yields_of_forall (fun _ => trivial) _)

/-- An effect in flight either waits for another reply, or fails, or settles its change; only the last
touches the cache. -/
theorem complete_advance {P : Change R → Prop} (t : Ticket) {d : Api.Call (Change R)} (hd : d.Yields P)
    (c : Cache R) :
    (∃ request, ∃ next : Api.Reply → Api.Call (Change R), (∀ reply, (next reply).Yields P) ∧
      (complete ⟨t, d⟩).advance c = (c, .awaiting request fun reply => complete ⟨t, next reply⟩)) ∨
    (∃ fault, (complete ⟨t, d⟩).advance c = (c, .ended (.error fault))) ∨
    ∃ change, P change ∧ (complete ⟨t, d⟩).advance c =
      (c.settle t change, .ended (.ok (change, c.accepts t))) := by
  induction d with
  | answer a =>
    cases a with
    | error fault => exact .inr (.inl ⟨.api fault, rfl⟩)
    | ok change =>
      have h := Activity.advance_report (c.settleReport t change)
        (fun _ => .finished (.ok (change, c.accepts t) : Outcome R)) (c.settle t change)
      exact .inr (.inr ⟨change, hd, h⟩)
  | ask request next => exact .inl ⟨request, next, hd, rfl⟩
  | note entry rest ih => exact ih hd

/-- What is left to do for an effect that took some ticket. -/
def Waits (effect : Effect R) (t : Ticket) (a : Activity (Cache R) (Outcome R)) : Prop :=
  ∃ d : Api.Call (Change R), d.Yields effect.Fits ∧ a = complete ⟨t, d⟩

theorem waits_steady (effect : Effect R) (t : Ticket) : Ensemble.Steady (Waits effect t) := by
  rintro _ ⟨d, hd, rfl⟩ c
  obtain ⟨request, next, hnext, h⟩ | ⟨fault, h⟩ | ⟨change, -, h⟩ := complete_advance t hd c
  · rw [h]
    exact Party.continues_awaiting fun reply => ⟨next reply, hnext reply, rfl⟩
  · rw [h]
    exact Party.continues_ended _ _
  · rw [h]
    exact Party.continues_ended _ _

/-- An effect that is issued takes its ticket and waits. -/
theorem perform_advance (effect : Effect R) (c : Cache R) :
    ((perform effect).advance c).1 = (c.takeTicket effect.isListLoad).1 ∧
      ((perform effect).advance c).2.result? = none ∧
      ((perform effect).advance c).2.Continues (Waits effect (c.takeTicket effect.isListLoad).2) := by
  obtain ⟨request, next, hcall⟩ := call_asks effect c.endpoint
  have hyields := call_yields effect c.endpoint
  have h : (perform effect).advance c =
      (complete ⟨(c.takeTicket effect.isListLoad).2, effect.call c.endpoint⟩).advance
        (c.takeTicket effect.isListLoad).1 := rfl
  rw [hcall] at h hyields
  rw [h]
  exact ⟨rfl, rfl, Party.continues_awaiting fun reply => ⟨next reply, hyields reply, rfl⟩⟩

/-- A signal settles the change of the effect that it reaches if it is the last reply and reports success,
and leaves the cache alone otherwise. -/
theorem step_of_waits {effect : Effect R} {t : Ticket} {e : Ensemble (Cache R) (Outcome R)} {i : Nat}
    (h : ∃ p, e.parties[i]? = some p ∧ p.Continues (Waits effect t)) (signal : Signal) :
    ((e.step (.reaches i signal)).state = e.state ∧
      ∀ j change applied, e.ending? (.reaches i signal) ≠ some (j, .ok (change, applied))) ∨
    ∃ change, effect.Fits change ∧ (e.step (.reaches i signal)).state = e.state.settle t change ∧
      e.ending? (.reaches i signal) = some (i, .ok (change, e.state.accepts t)) := by
  obtain ⟨p, hp, hc⟩ := h
  cases hon : e.onward? i signal with
  | none =>
    refine .inl ⟨by rw [Ensemble.step_reaches_none hon], fun j change applied h => ?_⟩
    rw [Ensemble.ending?, hon] at h
    cases h
  | some a =>
    obtain ⟨q, hq, ha⟩ := Ensemble.onward?_eq_some.mp hon
    obtain rfl := Option.some.inj (hp.symm.trans hq)
    obtain ⟨d, hd, rfl⟩ := hc signal a ha
    rw [Ensemble.step_reaches_some hon, Ensemble.ending?, hon, Option.bind_some, Ensemble.resume]
    obtain ⟨request, next, -, h⟩ | ⟨fault, h⟩ | ⟨change, hchange, h⟩ := complete_advance t hd e.state
    · rw [h]
      refine .inl ⟨rfl, fun j change applied h => ?_⟩
      cases h
    · rw [h]
      refine .inl ⟨rfl, fun j change applied h => ?_⟩
      cases h
    · rw [h]
      exact .inr ⟨change, hchange, rfl, rfl⟩

/-! ## Histories -/

/-- The desk that counts some moves. -/
def deskAfter (c : Cache R) (moves : List (Move R)) : TicketDesk :=
  c.desk.after (moves.filterMap Move.event?)

/-- The ticket of an effect that is issued after some moves. -/
def ticketAfter (c : Cache R) (moves : List (Move R)) (effect : Effect R) : Ticket :=
  ((c.deskAfter moves).take effect.isListLoad).2

omit [Record R] in
theorem deskAfter_append (c : Cache R) (moves later : List (Move R)) :
    c.deskAfter (moves ++ later) = (c.deskAfter moves).after (later.filterMap Move.event?) := by
  rw [deskAfter, List.filterMap_append, TicketDesk.after_append]
  rfl

omit [Record R] in
/-- A history splits at each of the effects that it issues. -/
theorem exists_issue {moves : List (Move R)} {i : Nat} (h : i < issued moves) :
    ∃ before effect later, moves = before ++ .issue effect :: later ∧ issued before = i := by
  obtain ⟨before, m, later, rfl, hm, rfl⟩ := History.exists_split h
  obtain ⟨effect, heffect⟩ := Option.isSome_iff_exists.mp hm
  obtain rfl := Move.effect?_eq_some.mp heffect
  exact ⟨before, effect, later, rfl, rfl⟩

theorem length_play (c : Cache R) (moves : List (Move R)) : (c.play moves).parties.length = issued moves := by
  have hentry : (fun m : Move R => m.occurrence.isEntry) = fun m => m.effect?.isSome := by
    funext m
    cases m <;> rfl
  rw [play, Ensemble.length_run, List.countP_map, issued, ← hentry]
  exact Nat.zero_add _

/-- What holds of a cache and its effects after every history. -/
structure Kept (c : Cache R) (moves : List (Move R)) : Prop where
  desk : (c.play moves).state.desk = c.deskAfter moves
  stands : ∀ before effect later, moves = before ++ .issue effect :: later →
    ∃ p, (c.play moves).parties[issued before]? = some p ∧
      p.Continues (Waits effect (c.ticketAfter before effect))

/-- Every reply either leaves the cache alone or settles the change of the effect that it is for. -/
theorem Kept.reply_cases {c : Cache R} {moves : List (Move R)} (h : c.Kept moves) (i : Nat)
    (r : Api.Reply) :
    ((c.play (moves ++ [.reply i r])).state = (c.play moves).state ∧
      ∀ j change applied, (c.play moves).ending? (.reaches i (.reply r)) ≠ some (j, .ok (change, applied))) ∨
    ∃ before effect later change, moves = before ++ .issue effect :: later ∧ issued before = i ∧
      effect.Fits change ∧
      (c.play (moves ++ [.reply i r])).state =
        (c.play moves).state.settle (c.ticketAfter before effect) change ∧
      (c.play moves).ending? (.reaches i (.reply r)) =
        some (i, .ok (change, (c.play moves).state.accepts (c.ticketAfter before effect))) := by
  rw [play_concat, Move.occurrence]
  by_cases hi : i < issued moves
  · obtain ⟨before, effect, later, hm, rfl⟩ := exists_issue hi
    obtain hidle | ⟨change, hfits, hstate, hending⟩ :=
      step_of_waits (h.stands before effect later hm) (.reply r)
    · exact .inl hidle
    · exact .inr ⟨before, effect, later, change, hm, rfl, hfits, hstate, hending⟩
  · have hnone : (c.play moves).onward? i (.reply r) = none := by
      rw [Ensemble.onward?, List.getElem?_eq_none (by rw [length_play]; omega), Option.bind_none]
    refine .inl ⟨by rw [Ensemble.step_reaches_none hnone], fun j change applied h => ?_⟩
    rw [Ensemble.ending?, hnone] at h
    cases h

/-- A ticket is good as long as no move since its issue takes precedence. -/
theorem Kept.accepts_iff {c : Cache R} {before later : List (Move R)} {effect : Effect R}
    (h : c.Kept (before ++ .issue effect :: later)) :
    (c.play (before ++ .issue effect :: later)).state.accepts (c.ticketAfter before effect) = true ↔
      Unsuperseded effect later := by
  have hdesk : c.deskAfter (before ++ .issue effect :: later) =
      ((c.deskAfter before).take effect.isListLoad).1.after (later.filterMap Move.event?) := by
    rw [deskAfter_append, TicketDesk.take_fst]
    rfl
  have hreset : TicketDesk.Event.invalidate ∉ later.filterMap Move.event? ↔ Move.reset ∉ later := by
    simp [List.mem_filterMap, Move.event?_eq_invalidate]
  have hlist : TicketDesk.Event.list ∉ later.filterMap Move.event? ↔
      ∀ m ∈ later, m.issuesList = false := by
    simp [List.mem_filterMap, Move.event?_eq_list]
  rw [accepts, h.desk, hdesk, ticketAfter, TicketDesk.isCurrent_take_after, hreset, hlist, Unsuperseded]

theorem kept (c : Cache R) (moves : List (Move R)) : c.Kept moves := by
  induction moves using List.reverseRecOn with
  | nil => exact ⟨rfl, fun before effect later h => absurd h (by simp)⟩
  | append_singleton moves m ih =>
    refine ⟨?_, ?_⟩
    · rw [play_concat, deskAfter_append, ← ih.desk]
      cases m with
      | issue effect =>
        change ((perform effect).advance (c.play moves).state).1.desk = _
        rw [(perform_advance effect _).1]
        exact TicketDesk.take_fst _ _
      | reply i r =>
        rw [← play_concat]
        obtain ⟨h, -⟩ | ⟨before, effect, later, change, -, -, -, h, -⟩ := ih.reply_cases i r
        · rw [h]
          rfl
        · rw [h, settle_desk]
          rfl
      | dispatch change => rfl
      | reset => rfl
    · intro before effect later h
      rw [play_concat]
      obtain ⟨rfl, rfl, rfl⟩ | ⟨later', rfl, rfl⟩ := History.concat_cases h
      · have hp := (perform_advance effect (c.play before).state).2.2
        refine ⟨((perform effect).advance (c.play before).state).2, ?_, ?_⟩
        · rw [← c.length_play before]
          exact List.getElem?_concat_length
        · rw [ticketAfter, ← ih.desk]
          exact hp
      · exact Ensemble.step_stands (waits_steady effect _) (ih.stands before effect later' rfl) _

/-! ## The order in which list loads are applied -/

/-- What is known of the list loads applied over a history: they came in the order of their issue, and each
of them has come to its end. -/
structure Ordered (c : Cache R) (moves : List (Move R)) : Prop where
  increasing : ((c.outcomes moves).filterMap appliedLoad?).Pairwise (· < ·)
  issue : ∀ j ∈ (c.outcomes moves).filterMap appliedLoad?, ∃ before effect later,
    moves = before ++ .issue effect :: later ∧ issued before = j ∧ effect.isListLoad = true
  ended : ∀ j ∈ (c.outcomes moves).filterMap appliedLoad?, ∃ a, (c.play moves).parties[j]? = some (.ended a)

/-- A move applies at most one list load, which nothing has superseded and which ends with it. -/
theorem Kept.appliedLoad_cases {c : Cache R} {moves : List (Move R)} (h : c.Kept moves) (m : Move R) :
    ((c.play moves).ending? m.occurrence).toList.filterMap appliedLoad? = [] ∨
    ∃ before effect later a, moves = before ++ .issue effect :: later ∧ effect.isListLoad = true ∧
      Unsuperseded effect later ∧
      ((c.play moves).ending? m.occurrence).toList.filterMap appliedLoad? = [issued before] ∧
      (c.play (moves ++ [m])).parties[issued before]? = some (.ended a) ∧
      ∀ a, (c.play moves).parties[issued before]? ≠ some (.ended a) := by
  cases m with
  | issue effect =>
    left
    have hnone := (perform_advance effect (c.play moves).state).2.1
    rw [Move.occurrence, Ensemble.ending?, hnone]
    rfl
  | dispatch change => exact .inl rfl
  | reset => exact .inl rfl
  | reply i r =>
    obtain ⟨-, hno⟩ | ⟨before, effect, later, change, rfl, rfl, hfits, -, hending⟩ := h.reply_cases i r
    · left
      rw [Move.occurrence]
      cases hend : (c.play moves).ending? (.reaches i (.reply r)) with
      | none => rfl
      | some result =>
        obtain ⟨j, fault | ⟨change, applied⟩⟩ := result
        · rfl
        · exact absurd hend (hno j change applied)
    · rw [Move.occurrence, hending]
      by_cases happlied : (c.play (before ++ .issue effect :: later)).state.accepts
          (c.ticketAfter before effect) = true ∧ effect.isListLoad = true
      · obtain ⟨haccepts, hload⟩ := happlied
        have hend : ∃ a, (c.play (before ++ .issue effect :: later ++
            [.reply (issued before) r])).parties[issued before]? = some (.ended a) := by
          rw [play_concat]
          exact ⟨_, Ensemble.parties_of_ending? hending⟩
        obtain ⟨a, hend⟩ := hend
        refine .inr ⟨before, effect, later, a, rfl, hload, h.accepts_iff.mp haccepts, ?_, hend, ?_⟩
        · rw [haccepts]
          simp [appliedLoad?, hfits.isListLoad, hload]
        · intro a ha
          obtain ⟨-, b, hb, -⟩ := Ensemble.ending?_reaches.mp hending
          obtain ⟨p, hp, hon⟩ := Ensemble.onward?_eq_some.mp hb
          obtain rfl := Option.some.inj (ha.symm.trans hp)
          exact Party.continues_ended (fun _ => False) a _ b hon
      · left
        rw [not_and, Bool.not_eq_true] at happlied
        cases haccepts : (c.play (before ++ .issue effect :: later)).state.accepts
            (c.ticketAfter before effect) with
        | false => rfl
        | true => simp [appliedLoad?, hfits.isListLoad, happlied haccepts]

/-- What is known of the loads applied so far stays true when another move follows. -/
theorem Ordered.keep {c : Cache R} {moves : List (Move R)} (h : c.Ordered moves) (m : Move R) :
    ∀ j ∈ (c.outcomes moves).filterMap appliedLoad?,
      (∃ before effect later, moves ++ [m] = before ++ .issue effect :: later ∧ issued before = j ∧
        effect.isListLoad = true) ∧
      ∃ a, (c.play (moves ++ [m])).parties[j]? = some (.ended a) := by
  intro j hj
  obtain ⟨before, effect, later, hmoves, hissued, hload⟩ := h.issue j hj
  obtain ⟨a, ha⟩ := h.ended j hj
  refine ⟨⟨before, effect, later ++ [m], ?_, hissued, hload⟩, a, ?_⟩
  · rw [hmoves, List.append_assoc]
    rfl
  · rw [play_concat]
    exact Ensemble.step_ended ha _

/-- A load applied earlier cannot have been issued later: its issue would have superseded this one. -/
theorem Ordered.lt_of_unsuperseded {c : Cache R} {before later : List (Move R)} {effect : Effect R}
    (h : c.Ordered (before ++ .issue effect :: later)) (hload : effect.isListLoad = true)
    (hun : Unsuperseded effect later)
    (hwaits : ∀ a, (c.play (before ++ .issue effect :: later)).parties[issued before]? ≠ some (.ended a)) :
    ∀ j ∈ (c.outcomes (before ++ .issue effect :: later)).filterMap appliedLoad?, j < issued before := by
  intro j hj
  obtain ⟨before', effect', later', hmoves', rfl, hload'⟩ := h.issue j hj
  obtain ⟨a', ha'⟩ := h.ended _ hj
  by_contra hle
  have hne : issued before ≠ issued before' := fun heq => hwaits a' (heq ▸ ha')
  have hlt : issued before < issued before' := by omega
  have hmem := History.mem_later hmoves' hlt
  have hnot := hun.2 hload _ hmem
  rw [Move.issuesList, Move.effect?, Option.any_some, hload'] at hnot
  exact Bool.noConfusion hnot

theorem ordered (c : Cache R) (moves : List (Move R)) : c.Ordered moves := by
  induction moves using List.reverseRecOn with
  | nil => exact ⟨.nil, fun j hj => (List.not_mem_nil hj).elim, fun j hj => (List.not_mem_nil hj).elim⟩
  | append_singleton moves m ih =>
    have hkeep := ih.keep m
    obtain hnew | ⟨before, effect, later, a, rfl, hload, hun, hnew, hended, hwaits⟩ :=
      (c.kept moves).appliedLoad_cases m
    · have hsame : (c.outcomes (moves ++ [m])).filterMap appliedLoad? =
          (c.outcomes moves).filterMap appliedLoad? := by
        rw [outcomes_concat, List.filterMap_append, hnew, List.append_nil]
      rw [← hsame] at hkeep
      exact ⟨hsame ▸ ih.increasing, fun j hj => (hkeep j hj).1, fun j hj => (hkeep j hj).2⟩
    · have hone : (c.outcomes (before ++ .issue effect :: later ++ [m])).filterMap appliedLoad? =
          (c.outcomes (before ++ .issue effect :: later)).filterMap appliedLoad? ++ [issued before] := by
        rw [outcomes_concat, List.filterMap_append, hnew]
      have hsplit : before ++ .issue effect :: later ++ [m] = before ++ .issue effect :: (later ++ [m]) :=
        List.append_assoc _ _ _
      refine ⟨?_, ?_, ?_⟩
      · rw [hone, List.pairwise_append]
        refine ⟨ih.increasing, List.pairwise_singleton _ _, fun j hj i hi => ?_⟩
        obtain rfl := List.mem_singleton.mp hi
        exact ih.lt_of_unsuperseded hload hun hwaits j hj
      · rw [hone]
        intro j hj
        obtain hj | hj := List.mem_append.mp hj
        · exact (hkeep j hj).1
        · obtain rfl := List.mem_singleton.mp hj
          exact ⟨before, effect, later ++ [m], hsplit, rfl, hload⟩
      · rw [hone]
        intro j hj
        obtain hj | hj := List.mem_append.mp hj
        · exact (hkeep j hj).2
        · obtain rfl := List.mem_singleton.mp hj
          exact ⟨a, hended⟩

/-! ## Main statement -/

omit [Record R] in
theorem publish_ne (p : Published (Listing R)) (value : Listing R) : p.publish value ≠ p := by
  intro h
  have hversion : p.version + 1 = p.version := congrArg Published.version h
  omega

theorem dispatch_ne (c : Cache R) (change : Change R) : c.dispatch change ≠ c :=
  fun h => publish_ne c.state _ (congrArg Cache.state h)

/-- Whatever effects overlap on a cache, the last reply of a successful one is reduced into the listing, and
its flag says so, exactly if nothing since its issue takes precedence; else the cache stays as it is.
Issues and all other replies leave the listing alone, and the list loads that reach it do so in the order of
their issue. -/
theorem reduced_iff_unsuperseded (c : Cache R) :
    (∀ before effect later reply change applied,
      let moves := before ++ .issue effect :: later
      let next := c.play (moves ++ [.reply (issued before) reply])
      (c.play moves).ending? (.reaches (issued before) (.reply reply)) =
          some (issued before, .ok (change, applied)) →
        effect.Fits change ∧
        (next.state = (c.play moves).state.dispatch change ↔ Unsuperseded effect later) ∧
        (next.state = (c.play moves).state ↔ ¬Unsuperseded effect later) ∧
        (applied = true ↔ Unsuperseded effect later)) ∧
    (∀ moves i reply,
      (∀ j change applied, (c.play moves).ending? (.reaches i (.reply reply)) ≠ some (j, .ok (change, applied))) →
        (c.play (moves ++ [.reply i reply])).state = (c.play moves).state) ∧
    (∀ moves effect, (c.play (moves ++ [.issue effect])).state.state = (c.play moves).state.state) ∧
    ∀ moves, ((c.outcomes moves).filterMap appliedLoad?).Pairwise (· < ·) := by
  refine ⟨?_, ?_, ?_, fun moves => (c.ordered moves).increasing⟩
  · intro before effect later reply change applied moves next hending
    have hkept := c.kept moves
    have hnext : next.state = ((c.play moves).step (.reaches (issued before) (.reply reply))).state :=
      congrArg Ensemble.state (c.play_concat moves _)
    obtain ⟨-, hno⟩ | ⟨change', hfits, hstate, hending'⟩ :=
      step_of_waits (hkept.stands before effect later rfl) (.reply reply)
    · exact absurd hending (hno _ change applied)
    · obtain ⟨rfl, rfl⟩ : change' = change ∧
          (c.play moves).state.accepts (c.ticketAfter before effect) = applied := by
        simpa using hending'.symm.trans hending
      rw [hnext, hstate, settle, ← hkept.accepts_iff]
      refine ⟨hfits, ?_, ?_, Iff.rfl⟩
      · split
        · rename_i haccepts
          exact iff_of_true rfl haccepts
        · rename_i haccepts
          exact iff_of_false (dispatch_ne _ _).symm haccepts
      · split
        · rename_i haccepts
          exact iff_of_false (dispatch_ne _ _) (not_not_intro haccepts)
        · rename_i haccepts
          exact iff_of_true rfl haccepts
  · intro moves i reply hno
    obtain ⟨h, -⟩ | ⟨before, effect, later, change, -, -, -, -, hending⟩ := (c.kept moves).reply_cases i reply
    · exact h
    · exact absurd hending (hno i change _)
  · intro moves effect
    rw [play_concat]
    change ((perform effect).advance (c.play moves).state).1.state = _
    rw [(perform_advance effect (c.play moves).state).1]
    rfl

/-- The reply to a page load that comes when another one has been issued is dropped, success or not. -/
theorem superseded_page_not_reduced :
    let c : Cache Project := .new (Api.Client.projects ⟨"http://api.test"⟩)
    let older : Effect Project := .loadPage (.plain 0 1)
    let later : List (Move Project) := [.issue (.loadPage (.plain 1 1))]
    let reply : Api.Reply := .response ⟨200, "\x7b\"entities\":[],\"total\":1\x7d"⟩
    (c.play (.issue older :: later)).ending? (.reaches 0 (.reply reply)) =
        some (0, .ok (.gotPage ⟨[], 1⟩ (.plain 0 1), false)) ∧
      (c.play (.issue older :: later ++ [.reply 0 reply])).state = (c.play (.issue older :: later)).state := by
  intro c older later reply
  have hending : (c.play (.issue older :: later)).ending? (.reaches 0 (.reply reply)) =
      some (0, .ok (.gotPage ⟨[], 1⟩ (.plain 0 1), false)) := by
    decide +kernel
  have hsuperseded : ¬Unsuperseded older later := fun h =>
    Bool.noConfusion (h.2 rfl _ List.mem_cons_self)
  exact ⟨hending, ((reduced_iff_unsuperseded c).1 [] older later reply _ false hending).2.2.1.mpr hsuperseded⟩

end Cache

end RunWatch
