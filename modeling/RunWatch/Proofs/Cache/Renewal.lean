import RunWatch.Proofs.Cache.Overlap
import RunWatch.Proofs.Cache.Work
import RunWatch.Proofs.Ensemble.Renewal

/-!
# A cache after a reset

A reset starts a new epoch at the desk, so the tickets of all effects in flight are past (`outdates_complete`),
and the cache stands where one begins that has no past (`Since`): the same listing, and a desk that judges
new tickets alike.  That no later move tells the two caches apart is `Ensemble.renewed_run`.
-/

namespace RunWatch

namespace Cache

variable {R : Type}

/-! ## The epochs of a cache -/

/-- The time of a cache is the epoch of its desk. -/
def passage (R : Type) : Passage (Cache R) where
  le c c' := c'.endpoint = c.endpoint ∧ c'.initial = c.initial ∧ c.desk.epoch ≤ c'.desk.epoch
  lt c c' := c.desk.epoch < c'.desk.epoch
  refl c := ⟨rfl, rfl, Nat.le_refl c.desk.epoch⟩
  trans h h' := ⟨h'.1.trans h.1, h'.2.1.trans h.2.1, Nat.le_trans h.2.2 h'.2.2⟩
  lt_of_le_of_lt h h' := Nat.lt_of_le_of_lt h.2.2 h'

variable [Record R]

theorem settle_of_epoch_lt {c : Cache R} {t : Ticket} (h : t.epoch < c.desk.epoch) (change : Change R) :
    c.settle t change = c := by
  rw [settle, accepts, TicketDesk.isCurrent_of_epoch_lt h, if_neg Bool.false_ne_true]

theorem le_settle (c : Cache R) (t : Ticket) (change : Change R) :
    (passage R).le c (c.settle t change) := by
  rw [settle]
  split
  · exact ⟨rfl, rfl, Nat.le_refl _⟩
  · exact (passage R).refl c

omit [Record R] in
theorem le_takeTicket (c : Cache R) (forList : Bool) : (passage R).le c (c.takeTicket forList).1 :=
  ⟨rfl, rfl, Nat.le_of_eq (TicketDesk.take_epoch c.desk forList).symm⟩

/-- An effect in flight does nothing from the epoch after its ticket on. -/
theorem outdates_complete {c : Cache R} {flight : Flight R} (h : flight.ticket.epoch ≤ c.desk.epoch) :
    (complete flight).Each ((passage R).Outdates c) := by
  refine each_complete fun change => ⟨fun c' => le_settle c' _ _, fun c' hlt => ?_⟩
  exact settle_of_epoch_lt (Nat.lt_of_le_of_lt h hlt) change

theorem ticket_issue (c : Cache R) (effect : Effect R) :
    (c.issue effect).2.ticket.epoch ≤ (c.issue effect).1.desk.epoch :=
  Nat.le_of_eq ((TicketDesk.take_ticket_epoch _ _).trans (TicketDesk.take_epoch _ _).symm)

theorem Move.passing (m : Move R) : m.occurrence.Passing (passage R) := by
  cases m with
  | issue effect =>
    exact Occurrence.passing_transact fun c => ⟨le_takeTicket c _, outdates_complete (ticket_issue c effect)⟩
  | reply i r => trivial
  | dispatch change => exact fun c => ⟨rfl, rfl, Nat.le_refl _⟩
  | reset => exact fun c => ⟨rfl, rfl, Nat.le_succ _⟩

/-! ## Caches with a past -/

/-- `old` has gone on from `start` as `new` has from a beginning. -/
structure Since (start old new : Cache R) : Prop where
  endpoint : old.endpoint = new.endpoint
  initial : old.initial = new.initial
  listing : old.listing = new.listing
  version : old.state.version = start.state.version + new.state.version
  desk : old.desk = start.desk.beyond new.desk

/-- A flight as a desk that goes on where another one stands lets it go. -/
def flightBeyond (past : TicketDesk) (flight : Flight R) : Flight R :=
  ⟨past.ticketBeyond flight.ticket, flight.dialogue⟩

namespace Since

variable {start old new : Cache R}

theorem dispatch (h : Since start old new) (change : Change R) :
    Since start (old.dispatch change) (new.dispatch change) := by
  refine ⟨h.endpoint, h.initial, ?_, ?_, h.desk⟩
  · change old.listing.apply old.initial change = new.listing.apply new.initial change
    rw [h.listing, h.initial]
  · exact congrArg (· + 1) h.version

omit [Record R] in
theorem reset (h : Since start old new) : Since start old.reset new.reset := by
  refine ⟨h.endpoint, h.initial, h.initial, congrArg (· + 1) h.version, ?_⟩
  change old.desk.invalidate = _
  rw [h.desk]
  rfl

theorem issue (h : Since start old new) (effect : Effect R) :
    Since start (old.issue effect).1 (new.issue effect).1 ∧
      (old.issue effect).2 = flightBeyond start.desk (new.issue effect).2 := by
  have htake := TicketDesk.beyond_take start.desk new.desk effect.isListLoad
  rw [← h.desk] at htake
  refine ⟨⟨h.endpoint, h.initial, h.listing, h.version, congrArg Prod.fst htake⟩, ?_⟩
  change Flight.mk (old.desk.take effect.isListLoad).2 (effect.call old.endpoint) = _
  rw [htake, h.endpoint]
  rfl

omit [Record R] in
theorem accepts (h : Since start old new) (t : Ticket) :
    old.accepts (start.desk.ticketBeyond t) = new.accepts t := by
  rw [Cache.accepts, h.desk, TicketDesk.isCurrent_beyond, Cache.accepts]

theorem settle (h : Since start old new) (t : Ticket) (change : Change R) :
    Since start (old.settle (start.desk.ticketBeyond t) change) (new.settle t change) := by
  rw [Cache.settle, Cache.settle, h.accepts]
  split
  · exact h.dispatch change
  · exact h

theorem settleReport (h : Since start old new) (t : Ticket) (change : Change R) :
    old.settleReport (start.desk.ticketBeyond t) change = new.settleReport t change := by
  rw [Cache.settleReport, Cache.settleReport, h.accepts, h.listing]

end Since

/-- An effect in flight does the same to both. -/
theorem alike_complete (start : Cache R) (flight : Flight R) :
    Activity.Alike (Since start) Eq (complete (flightBeyond start.desk flight)) (complete flight) := by
  refine (Activity.Alike.ofDialogue flight.dialogue).bind ?_
  rintro (fault | change) _ rfl
  · exact .finished rfl
  · refine (Activity.Alike.transact Eq fun old new h => ⟨h.settle flight.ticket change, ?_⟩).bind ?_
    · exact Prod.ext (h.accepts flight.ticket) (h.settleReport flight.ticket change)
    · rintro ⟨applied, entries⟩ _ rfl
      exact (Activity.Alike.report entries).bind fun _ _ _ => .finished rfl

theorem alike_perform (start : Cache R) (effect : Effect R) :
    Activity.Alike (Since start) Eq (perform effect) (perform effect) := by
  refine (Activity.Alike.transact (fun flight flight' => flight = flightBeyond start.desk flight')
    fun old new h => h.issue effect).bind ?_
  rintro _ flight rfl
  exact alike_complete start flight

theorem Move.respects (start : Cache R) (m : Move R) : m.occurrence.Respects (Since start) := by
  cases m with
  | issue effect => exact alike_perform start effect
  | reply i r => trivial
  | dispatch change => exact fun old new h => h.dispatch change
  | reset => exact fun old new h => h.reset

/-- What a move is for a cache that does not know of the first `n` effects. -/
def Move.since (n : Nat) : Move R → Option (Move R)
  | reply i r => if i < n then none else some (reply (i - n) r)
  | m => some m

theorem Move.since_occurrence (n : Nat) (m : Move R) :
    (m.since n).map occurrence = m.occurrence.since n := by
  cases m with
  | reply i r =>
    by_cases hi : i < n
    · simp [Move.since, Move.occurrence, Occurrence.since, hi]
    · simp [Move.since, Move.occurrence, Occurrence.since, hi]
  | _ => rfl

/-! ## Beginning anew -/

omit [Record R] in
/-- A reset leads a cache to where it once began. -/
theorem Since.of_reset {endpoint : Api.Endpoint R} {initial : Listing R} {c : Cache R}
    (h : (passage R).le (startingFrom endpoint initial) c) :
    Since c.reset c.reset (startingFrom endpoint initial) :=
  ⟨h.1, h.2.1, h.2.1, rfl, rfl⟩

omit [Record R] in
/-- What has gone on from a reset is later than what was before it. -/
theorem Since.lt {c old new : Cache R} (h : Since c.reset old new) : (passage R).lt c old := by
  have hepoch : old.desk.epoch = c.desk.epoch + 1 + new.desk.epoch := congrArg TicketDesk.epoch h.desk
  change c.desk.epoch < old.desk.epoch
  omega

theorem le_play (c : Cache R) (moves : List (Move R)) : (passage R).le c (c.play moves).state := by
  refine ((Ensemble.outdated_alone (passage R) c).run ?_).1
  intro o ho
  obtain ⟨m, -, rfl⟩ := List.mem_map.mp ho
  exact m.passing

/-- After a reset a cache goes on as if it had just begun. -/
theorem renewed (endpoint : Api.Endpoint R) (initial : Listing R) (past future : List (Move R)) :
    let fresh := startingFrom endpoint initial
    Ensemble.Renewed (passage R) (fresh.play past).state (Since (fresh.play past).state.reset) (issued past)
      (fresh.play (past ++ .reset :: future))
      (fresh.play (future.filterMap (Move.since (issued past)))) := by
  intro fresh
  rw [← fresh.length_play past]
  exact Ensemble.renewed_moves Move.since_occurrence rfl Move.passing (Move.respects _)
    (Since.of_reset (fresh.le_play past)) fun old new h => h.lt

end Cache

end RunWatch
