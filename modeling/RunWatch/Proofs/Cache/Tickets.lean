import RunWatch.Cache.TicketDesk

/-!
# What keeps a ticket good

A desk keeps two numbers and compares them with those on a ticket.  This module says what the numbers are
after a history (`after_eq`) and turns the comparison into a condition on the history alone: a ticket is
still good if and only if nothing has started a new epoch since, nor, for a list ticket, taken another one
(`isCurrent_take_after`).  Nor do the numbers that a history begins with matter: a desk with a past judges
the tickets of its own as a fresh one does (`isCurrent_beyond`).
-/

namespace RunWatch.TicketDesk

/-- The desk after some events. -/
def after (d : TicketDesk) (events : List Event) : TicketDesk :=
  events.foldl (fun d e => (d.step e).1) d

@[simp] theorem after_cons (d : TicketDesk) (e : Event) (es : List Event) :
    d.after (e :: es) = (d.step e).1.after es := rfl

theorem after_append (d : TicketDesk) (es es' : List Event) :
    d.after (es ++ es') = (d.after es).after es' :=
  List.foldl_append

/-- A desk counts the epochs and the list tickets of its history. -/
theorem after_eq (d : TicketDesk) (es : List Event) :
    d.after es = ⟨d.epoch + es.count .invalidate, d.generation + es.count .list⟩ := by
  induction es generalizing d with
  | nil => rfl
  | cons e es ih =>
    rw [after_cons, ih]
    cases e <;> simp [step, list, invalidate] <;> omega

/-- The event of taking a ticket. -/
def Event.ofTake (forList : Bool) : Event :=
  if forList then .list else .single

theorem take_fst (d : TicketDesk) (forList : Bool) :
    (d.take forList).1 = (d.step (.ofTake forList)).1 := by
  cases forList <;> rfl

@[simp] theorem take_epoch (d : TicketDesk) (forList : Bool) :
    (d.take forList).1.epoch = d.epoch := by
  cases forList <;> rfl

@[simp] theorem take_ticket_epoch (d : TicketDesk) (forList : Bool) :
    (d.take forList).2.epoch = d.epoch := by
  cases forList <;> rfl

/-- A ticket is good as long as no new epoch has started since and, if it is a list ticket, no other one
has been taken. -/
theorem isCurrent_take_after (d : TicketDesk) (forList : Bool) (es : List Event) :
    ((d.take forList).1.after es).isCurrent (d.take forList).2 = true ↔
      Event.invalidate ∉ es ∧ (forList = true → Event.list ∉ es) := by
  have counts : ∀ e : Event, e ∉ es ↔ es.count e = 0 := fun e => List.count_eq_zero.symm
  rw [after_eq, counts, counts]
  cases forList
  · simp [take, single, isCurrent]
  · simp [take, list, isCurrent]

/-- A ticket of an earlier epoch is of no use. -/
theorem isCurrent_of_epoch_lt {d : TicketDesk} {t : Ticket} (h : t.epoch < d.epoch) :
    d.isCurrent t = false := by
  have hne : t.epoch ≠ d.epoch := Nat.ne_of_lt h
  simp [isCurrent, hne]

/-! ## Desks with a past -/

/-- A desk that goes on where another one stands. -/
def beyond (past d : TicketDesk) : TicketDesk :=
  ⟨past.epoch + d.epoch, past.generation + d.generation⟩

/-- A ticket of a desk as one that goes on where another one stands hands it out. -/
def ticketBeyond (past : TicketDesk) (t : Ticket) : Ticket :=
  ⟨past.epoch + t.epoch, t.generation.map (past.generation + ·)⟩

theorem beyond_take (past d : TicketDesk) (forList : Bool) :
    (past.beyond d).take forList = (past.beyond (d.take forList).1, past.ticketBeyond (d.take forList).2) := by
  cases forList <;> rfl

/-- A past makes no difference to the tickets handed out after it. -/
theorem isCurrent_beyond (past d : TicketDesk) (t : Ticket) :
    (past.beyond d).isCurrent (past.ticketBeyond t) = d.isCurrent t := by
  obtain ⟨epoch, generation⟩ := t
  cases generation <;> simp [isCurrent, beyond, ticketBeyond]

end RunWatch.TicketDesk
