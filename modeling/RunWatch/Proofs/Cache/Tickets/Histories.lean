import RunWatch.Proofs.Cache.Tickets

/-!
# Tickets over a history

A desk is asked for tickets of both sorts and closed for a new epoch, in any order and as often as one likes.
`TicketDesk.handed` lists the tickets of such a history.  Each of them was handed out by one of its events
(`exists_split_of_mem_handed`), and what has happened since then tells whether it is still good (`isCurrent_later`).
-/

namespace RunWatch.TicketDesk

/-- The tickets that a desk hands out over some events, the oldest first. -/
def handed (d : TicketDesk) : List Event → List Ticket
  | [] => []
  | e :: es => (d.step e).2.toList ++ (d.step e).1.handed es

variable {d : TicketDesk} {events before later : List Event} {e : Event} {t : Ticket}

theorem run_eq (d : TicketDesk) (events : List Event) (tickets : List Ticket) :
    d.run events tickets = (d.after events, tickets ++ d.handed events) := by
  induction events generalizing d tickets with
  | nil => simp [run, handed, after]
  | cons e es ih =>
    have hcons : d.run (e :: es) tickets = (d.step e).1.run es (tickets ++ (d.step e).2.toList) := rfl
    rw [hcons, ih, handed, after_cons, List.append_assoc]

/-- A ticket is of an event of the history. -/
theorem exists_split_of_mem_handed (h : t ∈ d.handed events) :
    ∃ before e later, events = before ++ e :: later ∧ ((d.after before).step e).2 = some t := by
  induction events generalizing d with
  | nil => exact absurd h List.not_mem_nil
  | cons e es ih =>
    rcases List.mem_append.mp h with hfirst | hrest
    · exact ⟨[], e, es, rfl, Option.mem_toList.mp hfirst⟩
    · obtain ⟨before, e', later, rfl, ht⟩ := ih hrest
      exact ⟨e :: before, e', later, rfl, ht⟩

theorem isCurrent_step (h : (d.step e).2 = some t) (later : List Event) :
    ((d.step e).1.after later).isCurrent t = true ↔ Event.invalidate ∉ later ∧ (e = .list → Event.list ∉ later) := by
  cases e with
  | single =>
    obtain rfl := Option.some.inj h
    exact (isCurrent_take_after d false later).trans (by simp)
  | list =>
    obtain rfl := Option.some.inj h
    exact (isCurrent_take_after d true later).trans (by simp)
  | invalidate => exact absurd h (by simp [step])

/-- A ticket is good until a new epoch starts or, if it is a list ticket, the next one is handed out. -/
theorem isCurrent_later (h : ((d.after before).step e).2 = some t) (later : List Event) :
    (d.after (before ++ e :: later)).isCurrent t = true ↔
      Event.invalidate ∉ later ∧ (e = .list → Event.list ∉ later) := by
  rw [after_append, after_cons, isCurrent_step h]

/-- What has gone stale stays so. -/
theorem isCurrent_of_append (h : t ∈ d.handed events) (later : List Event)
    (hcurrent : (d.after (events ++ later)).isCurrent t = true) : (d.after events).isCurrent t = true := by
  obtain ⟨before, e, between, rfl, ht⟩ := exists_split_of_mem_handed h
  rw [List.append_assoc, List.cons_append, isCurrent_later ht] at hcurrent
  obtain ⟨hepoch, hlist⟩ := hcurrent
  refine (isCurrent_later ht between).mpr ⟨fun hmem => ?_, fun he hmem => ?_⟩
  · exact hepoch (List.mem_append_left _ hmem)
  · exact hlist he (List.mem_append_left _ hmem)

theorem isCurrent_invalidate (h : t ∈ d.handed events) :
    (d.after (events ++ [.invalidate])).isCurrent t = false := by
  obtain ⟨before, e, later, rfl, ht⟩ := exists_split_of_mem_handed h
  rw [List.append_assoc, List.cons_append, Bool.eq_false_iff, ne_eq, isCurrent_later ht]
  exact fun hcurrent => hcurrent.1 (by simp)

/-! ## List tickets -/

/-- The list tickets of a history that are still good at its end. -/
def currentLists (d : TicketDesk) (events : List Event) : List Ticket :=
  (d.handed events).filter fun t => t.generation.isSome && (d.after events).isCurrent t

theorem generation_of_mem_handed (hlist : Event.list ∉ events) (h : t ∈ d.handed events) : t.generation = none := by
  obtain ⟨before, e, later, rfl, ht⟩ := exists_split_of_mem_handed h
  cases e with
  | single =>
    obtain rfl := Option.some.inj ht
    rfl
  | list => exact absurd (by simp) hlist
  | invalidate => exact absurd ht (by simp [step])

theorem length_currentLists_le (d : TicketDesk) (events : List Event) : (d.currentLists events).length ≤ 1 := by
  induction events generalizing d with
  | nil => simp [currentLists, handed]
  | cons e es ih =>
    have hrest : d.currentLists (e :: es) =
        ((d.step e).2.toList.filter fun t => t.generation.isSome && ((d.step e).1.after es).isCurrent t) ++
          (d.step e).1.currentLists es := by
      rw [currentLists, handed, List.filter_append, after_cons, currentLists]
    cases e with
    | single =>
      rw [hrest]
      exact ih d
    | list =>
      rw [hrest]
      by_cases hlater : Event.list ∈ es
      · -- The ticket has been superseded, so one of the later ones is good at most.
        have hstale : ((d.step .list).1.after es).isCurrent d.list.2 = false :=
          Bool.eq_false_iff.mpr fun hcurrent => ((isCurrent_step rfl es).mp hcurrent).2 rfl hlater
        have hdropped : ((d.step .list).2.toList.filter fun t =>
            t.generation.isSome && ((d.step .list).1.after es).isCurrent t) = [] :=
          List.filter_eq_nil_iff.mpr fun t ht => by
            obtain rfl := Option.some.inj (Option.mem_toList.mp ht)
            simp [hstale]
        rw [hdropped]
        exact ih _
      · have hnone : (d.step .list).1.currentLists es = [] :=
          List.filter_eq_nil_iff.mpr fun t ht => by simp [generation_of_mem_handed hlater ht]
        rw [hnone, List.append_nil]
        exact List.length_filter_le _ _
    | invalidate => exact hrest ▸ ih _

/-- A desk that has handed out tickets over a history holds a ticket good exactly if no new epoch has started since it
was handed out and, if it is a list ticket, no other one has been handed out.  So at most one list ticket is good at any
time, a ticket that has gone stale never gets good again, and a new epoch makes all tickets stale at once. -/
theorem good_until_superseded (d : TicketDesk) (events : List Event) :
    d.run events [] = (d.after events, d.handed events) ∧
    (∀ before e later t, events = before ++ e :: later → ((d.after before).step e).2 = some t →
      ((d.after events).isCurrent t = true ↔ Event.invalidate ∉ later ∧ (e = .list → Event.list ∉ later))) ∧
    (d.currentLists events).length ≤ 1 ∧
    ∀ t ∈ d.handed events,
      (∃ before e later, events = before ++ e :: later ∧ ((d.after before).step e).2 = some t) ∧
      (∀ later, (d.after events).isCurrent t = false → (d.after (events ++ later)).isCurrent t = false) ∧
      (d.after (events ++ [.invalidate])).isCurrent t = false := by
  refine ⟨run_eq d events [], fun before e later t hsplit ht => ?_, length_currentLists_le d events, fun t ht => ?_⟩
  · rw [hsplit, isCurrent_later ht]
  · refine ⟨exists_split_of_mem_handed ht, fun later hstale => ?_, isCurrent_invalidate ht⟩
    exact Bool.eq_false_iff.mpr fun hcurrent => Bool.eq_false_iff.mp hstale (isCurrent_of_append ht later hcurrent)

/-- The second of two list tickets supersedes the first, not the ticket between them, and a new epoch makes all three
stale, whatever is handed out in it. -/
theorem second_list_ticket_supersedes_first :
    let d : TicketDesk := ⟨3, 7⟩
    let events : List Event := [.list, .single, .list]
    (d.run events []).2 = [⟨3, some 8⟩, ⟨3, none⟩, ⟨3, some 9⟩] ∧
      (¬(d.after events).isCurrent ⟨3, some 8⟩ = true ∧ (d.after events).isCurrent ⟨3, none⟩ = true ∧
        (d.after events).isCurrent ⟨3, some 9⟩ = true ∧ d.currentLists events = [⟨3, some 9⟩]) ∧
      (d.after (events ++ [.single, .list])).isCurrent ⟨3, some 8⟩ = false ∧
      (d.after (events ++ [.invalidate])).isCurrent ⟨3, none⟩ = false := by
  intro d events
  obtain ⟨hrun, hcurrent, -, hticket⟩ := good_until_superseded d events
  have hhanded : d.handed events = [⟨3, some 8⟩, ⟨3, none⟩, ⟨3, some 9⟩] := rfl
  have hfirst : ¬(d.after events).isCurrent ⟨3, some 8⟩ = true := by
    rw [hcurrent [] .list [.single, .list] ⟨3, some 8⟩ rfl rfl]
    decide
  refine ⟨by rw [hrun, hhanded], ⟨hfirst, ?_, ?_, rfl⟩, ?_, ?_⟩
  · exact (hcurrent [.list] .single [.list] ⟨3, none⟩ rfl rfl).mpr (by decide)
  · exact (hcurrent [.list, .single] .list [] ⟨3, some 9⟩ rfl rfl).mpr (by decide)
  · exact (hticket ⟨3, some 8⟩ (by simp [hhanded])).2.1 [.single, .list] (Bool.eq_false_iff.mpr hfirst)
  · exact (hticket ⟨3, none⟩ (by simp [hhanded])).2.2

end RunWatch.TicketDesk
