import RunWatch.Proofs.Api.Exchanges
import RunWatch.Proofs.Cache.Catalog.Moves

/-!
# Updates that break off

An update of a component is a row of exchanges: the component is patched, each step of the plan for its
schedules is carried out, and the component is fetched again.  `Catalog.exchanges` lists them.  Whatever else
is at work on the catalog, the update sends a prefix of this row that only its own replies decide, and it
changes nothing before the last of them has passed (`Catalog.update_breaks_off_at_failure`).

The invariant is `Catalog.UpdateStands`: as long as all replies have passed the update waits for the next one,
as what is left of the row (`Catalog.updating`), and from the first reply that does not pass it is over.
-/

namespace RunWatch

namespace Catalog

open Api (Exchange Reply)

/-! ## The row of exchanges -/

/-- The exchange of one step of a plan. -/
def stepExchange (schedules : Api.Endpoint Schedule) (component : Uuid) : ScheduleStep → Exchange
  | .create draft =>
    .decoding (Record.codec (R := Schedule))
      (schedules.createRequest (some component) (ScheduleDraft.codec.write draft))
  | .replace id draft =>
    .decoding (Record.codec (R := Schedule)) (schedules.patchRequest id (ScheduleDraft.codec.write draft))
  | .delete id => .confirming (schedules.deleteRequest id)

/-- The exchanges of an update that bring the platform up to date. -/
def writes (c : Catalog) (component : Component) (steps : List ScheduleStep) : List Exchange :=
  .decoding (Record.codec (R := Component))
      (c.components.endpoint.patchRequest (Record.id component) (Record.encode component)) ::
    steps.map (stepExchange c.schedules (Record.id component))

/-- The request that fetches the component again. -/
def refetch (c : Catalog) (component : Component) : Api.Request :=
  c.components.endpoint.getRequest (Record.id component)

/-- All the exchanges of an update in order. -/
def exchanges (c : Catalog) (component : Component) (steps : List ScheduleStep) : List Exchange :=
  c.writes component steps ++ [.decoding (Record.codec (R := Component)) (c.refetch component)]

/-- What is left of the call of an update when some of its exchanges have passed. -/
def callFrom (c : Catalog) (component : Component) (steps : List ScheduleStep) (k : Nat) :
    Api.Call (Change Component) :=
  .following ((c.writes component steps).drop k)
    ((Api.exchange (Record.codec (R := Component)) (c.refetch component)).map (Except.map .updated))

theorem callFrom_of_lt (c : Catalog) (component : Component) (steps : List ScheduleStep) {k : Nat}
    (hk : k < (c.writes component steps).length) :
    c.callFrom component steps k = .ask (c.writes component steps)[k].request fun reply =>
      match (c.writes component steps)[k].judge reply with
      | .ok () => c.callFrom component steps (k + 1)
      | .error fault => .answer (.error fault) := by
  rw [callFrom, List.drop_eq_getElem_cons hk]
  rfl

theorem callFrom_length (c : Catalog) (component : Component) (steps : List ScheduleStep) :
    c.callFrom component steps (c.writes component steps).length = .ask (c.refetch component) fun reply =>
      .answer ((reply.decode (Record.codec (R := Component))).map .updated) := by
  rw [callFrom, List.drop_length]
  rfl

/-- What is left to do for an update that holds a ticket. -/
def updating (ticket : Ticket) (d : Api.Call (Change Component)) : Activity Catalog Outcome :=
  tagged .updated (completeUpdate ⟨ticket, d⟩)

theorem updating_ask (ticket : Ticket) (request : Api.Request) (next : Reply → Api.Call (Change Component)) :
    updating ticket (.ask request next) = .asking request fun reply => updating ticket (next reply) := rfl

theorem updating_error (ticket : Ticket) (fault : Api.Fault) :
    updating ticket (.answer (.error fault)) = .finished (.updated (.error (.api fault))) := rfl

/-- An update whose exchanges have all passed applies its change if its ticket is still good. -/
theorem updating_ok_advance (ticket : Ticket) (change : Change Component) (c : Catalog) :
    (updating ticket (.answer (.ok change))).advance c =
      (c.settle ticket change, .ended (.updated (.ok change))) := by
  have hreport : ∀ (entries : List LogEntry) (c : Catalog),
      (tagged .updated ((Activity.report entries).bind fun _ => .finished (.ok change))).advance c =
        (c, .ended (.updated (.ok change))) := by
    intro entries c
    induction entries with
    | nil => rfl
    | cons entry entries ih => exact ih
  exact hreport (c.updateReport ticket change) (c.settle ticket change)

/-- An update with some writes to go waits for the reply to the first of its exchanges.  A reply that does not
pass ends it with its fault. -/
theorem updating_waits (c : Catalog) (component : Component) (steps : List ScheduleStep) (ticket : Ticket)
    {k : Nat} (hk : k < (c.exchanges component steps).length) :
    ∃ next, (∀ c', (updating ticket (c.callFrom component steps k)).advance c' =
        (c', .awaiting (c.exchanges component steps)[k].request next)) ∧
      ∀ reply,
        (∀ fault, (c.exchanges component steps)[k].judge reply = .error fault →
          next reply = .finished (.updated (.error (.api fault)))) ∧
        ((c.exchanges component steps)[k].judge reply = .ok () → k + 1 < (c.exchanges component steps).length →
          next reply = updating ticket (c.callFrom component steps (k + 1))) ∧
        ((c.exchanges component steps)[k].judge reply = .ok () → k + 1 = (c.exchanges component steps).length →
          ∃ refreshed, reply.decode (Record.codec (R := Component)) = .ok refreshed ∧
            next reply = updating ticket (.answer (.ok (.updated refreshed)))) := by
  have hlength : (c.exchanges component steps).length = (c.writes component steps).length + 1 :=
    List.length_append
  by_cases hwrite : k < (c.writes component steps).length
  · have hget : (c.exchanges component steps)[k] = (c.writes component steps)[k] :=
      List.getElem_append_left hwrite
    rw [hget, c.callFrom_of_lt component steps hwrite, updating_ask]
    refine ⟨_, fun c' => rfl, fun reply => ⟨?_, ?_, ?_⟩⟩
    · intro fault hjudge
      simp only [hjudge, updating_error]
    · intro hjudge _
      simp only [hjudge]
    · intro _ hlast
      omega
  · obtain rfl : k = (c.writes component steps).length := by omega
    have hget : (c.exchanges component steps)[(c.writes component steps).length] =
        .decoding (Record.codec (R := Component)) (c.refetch component) :=
      List.getElem_concat_length rfl hk
    rw [hget, c.callFrom_length, updating_ask]
    refine ⟨_, fun c' => rfl, fun reply => ⟨?_, ?_, ?_⟩⟩
    · intro fault hjudge
      simp only [Exchange.decode_of_judge hjudge, Except.map, updating_error]
    · intro _ hmore
      omega
    · intro hjudge _
      obtain ⟨refreshed, hdecode⟩ := Exchange.exists_decode_of_judge hjudge
      exact ⟨refreshed, hdecode, by simp only [hdecode, Except.map]⟩

/-- What a reply does to an update that waits for it after `k` exchanges have passed. -/
inductive UpdateTurn (c : Catalog) (component : Component) (steps : List ScheduleStep) (ticket : Ticket)
    (e : Ensemble Catalog Outcome) (i k : Nat) (hk : k < (c.exchanges component steps).length)
    (reply : Reply) : Prop
  | breaksOff (fault : Api.Fault) (hjudge : (c.exchanges component steps)[k].judge reply = .error fault)
      (hstate : (e.step (.reaches i (.reply reply))).state = e.state)
      (hparty : (e.step (.reaches i (.reply reply))).parties[i]? = some (.ended (.updated (.error (.api fault)))))
      (hasks : e.asks? i (.reaches i (.reply reply)) = none)
      (hending : e.ending? (.reaches i (.reply reply)) = some (i, .updated (.error (.api fault))))
  | goesOn (hmore : k + 1 < (c.exchanges component steps).length)
      (hjudge : (c.exchanges component steps)[k].judge reply = .ok ())
      (hstate : (e.step (.reaches i (.reply reply))).state = e.state)
      (hparty : ∃ c', (e.step (.reaches i (.reply reply))).parties[i]? =
        some ((updating ticket (c.callFrom component steps (k + 1))).advance c').2)
      (hasks : e.asks? i (.reaches i (.reply reply)) = some (c.exchanges component steps)[k + 1].request)
      (hending : e.ending? (.reaches i (.reply reply)) = none)
  | completes (refreshed : Component) (hlast : k + 1 = (c.exchanges component steps).length)
      (hjudge : (c.exchanges component steps)[k].judge reply = .ok ())
      (hdecode : reply.decode (Record.codec (R := Component)) = .ok refreshed)
      (hstate : (e.step (.reaches i (.reply reply))).state = e.state.settle ticket (.updated refreshed))
      (hparty : (e.step (.reaches i (.reply reply))).parties[i]? =
        some (.ended (.updated (.ok (.updated refreshed)))))
      (hasks : e.asks? i (.reaches i (.reply reply)) = none)
      (hending : e.ending? (.reaches i (.reply reply)) = some (i, .updated (.ok (.updated refreshed))))

theorem updateTurn {c : Catalog} {component : Component} {steps : List ScheduleStep} {ticket : Ticket}
    {e : Ensemble Catalog Outcome} {i k : Nat} (hk : k < (c.exchanges component steps).length)
    (hparty : ∃ c', e.parties[i]? = some ((updating ticket (c.callFrom component steps k)).advance c').2)
    (reply : Reply) : UpdateTurn c component steps ticket e i k hk reply := by
  obtain ⟨next, hadvance, hnext⟩ := updating_waits c component steps ticket hk
  obtain ⟨c', hparty⟩ := hparty
  rw [hadvance] at hparty
  obtain ⟨hfails, hpasses, hcompletes⟩ := hnext reply
  have hon : (Party.awaiting (c.exchanges component steps)[k].request next).onward? (.reply reply) =
      some (next reply) := rfl
  cases hjudge : (c.exchanges component steps)[k].judge reply with
  | error fault =>
    rw [hfails fault hjudge] at hon
    obtain ⟨hstate, hparty', hasks, hending⟩ := Ensemble.reached hparty hon rfl
    exact .breaksOff fault hjudge hstate hparty' hasks hending
  | ok u =>
    by_cases hmore : k + 1 < (c.exchanges component steps).length
    · rw [hpasses hjudge hmore] at hon
      obtain ⟨next', hadvance', -⟩ := updating_waits c component steps ticket hmore
      obtain ⟨hstate, hparty', hasks, hending⟩ := Ensemble.reached hparty hon (hadvance' e.state)
      exact .goesOn hmore hjudge hstate ⟨e.state, by rw [hparty', hadvance']⟩ hasks hending
    · have hlast : k + 1 = (c.exchanges component steps).length := by omega
      obtain ⟨refreshed, hdecode, hcompletes⟩ := hcompletes hjudge hlast
      rw [hcompletes] at hon
      have hadvance' := updating_ok_advance ticket (.updated refreshed) e.state
      obtain ⟨hstate, hparty', hasks, hending⟩ := Ensemble.reached hparty hon hadvance'
      exact .completes refreshed hlast hjudge hdecode hstate hparty' hasks hending

/-! ## An update over a whole history -/

/-- What holds of an update after every history since its issue: it has sent the requests up to the first
exchange that has not passed, and it waits for the reply to that one unless it has been refused. -/
structure UpdateStands (c : Catalog) (before later : List Move) (component : Component)
    (drafts : List ScheduleDraft) (steps : List ScheduleStep) (passed : Nat) : Prop where
  sent : c.requestsOf (issued before) (before ++ .update component drafts :: later) =
    ((c.exchanges component steps).map Exchange.request).take (passed + 1)
  stage : (passed = (repliesTo (issued before) later).length ∧ passed < (c.exchanges component steps).length ∧
      ∃ c', (c.play (before ++ .update component drafts :: later)).parties[issued before]? =
        some ((updating (c.play before).state.components.desk.single
          (c.callFrom component steps passed)).advance c').2) ∨
    ((passed < (repliesTo (issued before) later).length ∨ passed = (c.exchanges component steps).length) ∧
      ∃ o, (c.play (before ++ .update component drafts :: later)).parties[issued before]? = some (.ended o))

variable {component : Component} {drafts : List ScheduleDraft} {steps : List ScheduleStep}

theorem update_concat (before later : List Move) (m : Move) :
    before ++ .update component drafts :: (later ++ [m]) =
      before ++ .update component drafts :: later ++ [m] := by
  simp

/-- What happens elsewhere does not concern an update. -/
theorem UpdateStands.elsewhere {c : Catalog} {before later : List Move} {passed : Nat}
    (h : c.UpdateStands before later component drafts steps passed) {m : Move}
    (hm : m.replyTo? (issued before) = none) :
    c.UpdateStands before (later ++ [m]) component drafts steps passed := by
  have hreplies : repliesTo (issued before) (later ++ [m]) = repliesTo (issued before) later := by
    simp [repliesTo, hm]
  have hstays : ∀ p, (c.play (before ++ .update component drafts :: later)).parties[issued before]? = some p →
      (c.play (before ++ .update component drafts :: later ++ [m])).parties[issued before]? = some p ∧
        (c.play (before ++ .update component drafts :: later)).asks? (issued before) m.occurrence = none := by
    intro p hp
    rw [play_concat]
    exact Ensemble.elsewhere hp (Move.ne_reaches_of_replyTo? hm)
  obtain ⟨hsent, hstage⟩ := h
  rcases hstage with ⟨hall, hk, c', hparty⟩ | ⟨hover, o, hparty⟩
  · obtain ⟨hparty', hasks⟩ := hstays _ hparty
    refine ⟨?_, .inl ⟨by rw [hreplies, hall], hk, c', ?_⟩⟩
    · rw [update_concat, requestsOf_concat, hsent, hasks, Option.toList_none, List.append_nil]
    · rw [update_concat, hparty']
  · obtain ⟨hparty', hasks⟩ := hstays _ hparty
    refine ⟨?_, .inr ⟨by rw [hreplies]; exact hover, o, ?_⟩⟩
    · rw [update_concat, requestsOf_concat, hsent, hasks, Option.toList_none, List.append_nil]
    · rw [update_concat, hparty']

theorem repliesTo_concat (i : Nat) (moves : List Move) (reply : Reply) :
    repliesTo i (moves ++ [.reply i reply]) = repliesTo i moves ++ [reply] := by
  simp [repliesTo, Move.replyTo?]

/-- A reply to an update that is over does nothing. -/
theorem UpdateStands.reply_over {c : Catalog} {before later : List Move} {passed : Nat}
    (h : c.UpdateStands before later component drafts steps passed)
    (hover : passed < (repliesTo (issued before) later).length ∨ passed = (c.exchanges component steps).length)
    (reply : Reply) :
    let e := c.play (before ++ .update component drafts :: later)
    e.step (.reaches (issued before) (.reply reply)) = e ∧
      e.asks? (issued before) (.reaches (issued before) (.reply reply)) = none ∧
      e.ending? (.reaches (issued before) (.reply reply)) = none := by
  intro e
  rcases h.stage with ⟨hall, hk, -⟩ | ⟨-, o, hparty⟩
  · omega
  · exact Ensemble.unmoved hparty rfl

/-- A reply to an update that waits for it makes its turn. -/
theorem UpdateStands.turn {c : Catalog} {before later : List Move} {passed : Nat}
    (h : c.UpdateStands before later component drafts steps passed)
    (hall : passed = (repliesTo (issued before) later).length)
    (hk : passed < (c.exchanges component steps).length) (reply : Reply) :
    UpdateTurn c component steps (c.play before).state.components.desk.single
      (c.play (before ++ .update component drafts :: later)) (issued before) passed hk reply := by
  rcases h.stage with ⟨-, -, hparty⟩ | ⟨hover, -⟩
  · exact updateTurn hk hparty reply
  · omega

theorem UpdateStands.reply {c : Catalog} {before later : List Move}
    (h : c.UpdateStands before later component drafts steps
      (Exchange.passed (c.exchanges component steps) (repliesTo (issued before) later))) (reply : Reply) :
    c.UpdateStands before (later ++ [.reply (issued before) reply]) component drafts steps
      (Exchange.passed (c.exchanges component steps)
        (repliesTo (issued before) (later ++ [.reply (issued before) reply]))) := by
  have hsent : ∀ request?, (c.play (before ++ .update component drafts :: later)).asks? (issued before)
        (.reaches (issued before) (.reply reply)) = request? →
      c.requestsOf (issued before)
          (before ++ .update component drafts :: (later ++ [.reply (issued before) reply])) =
        ((c.exchanges component steps).map Exchange.request).take
          (Exchange.passed (c.exchanges component steps) (repliesTo (issued before) later) + 1) ++
            request?.toList := by
    intro request? hasks
    rw [update_concat, requestsOf_concat, h.sent]
    exact congrArg (_ ++ Option.toList ·) hasks
  have hplay : c.play (before ++ .update component drafts :: (later ++ [.reply (issued before) reply])) =
      (c.play (before ++ .update component drafts :: later)).step
        (.reaches (issued before) (.reply reply)) := by
    rw [update_concat, play_concat]
    rfl
  have hnext : ∀ k, ((c.exchanges component steps).map Exchange.request).take (k + 1 + 1) =
      ((c.exchanges component steps).map Exchange.request).take (k + 1) ++
        ((c.exchanges component steps)[k + 1]?.map Exchange.request).toList := by
    intro k
    rw [List.take_add_one, List.getElem?_map]
  rcases h.stage with ⟨hall, hk, -⟩ | ⟨hover, o, hparty⟩
  · have hpassed := Exchange.passed_concat hall (by rw [← hall]; exact List.getElem?_eq_getElem hk) reply
    rw [repliesTo_concat]
    rcases h.turn hall hk reply with
      ⟨fault, hjudge, -, hparty, hasks, -⟩ | ⟨hmore, hjudge, -, hparty, hasks, -⟩ |
        ⟨refreshed, hlast, hjudge, -, -, hparty, hasks, -⟩
    · simp only [hjudge, ← hall] at hpassed
      rw [hpassed]
      refine ⟨?_, .inr ⟨.inl ?_, .updated (.error (.api fault)), ?_⟩⟩
      · rw [hsent _ hasks, Option.toList_none, List.append_nil]
      · rw [repliesTo_concat, List.length_append, ← hall]
        exact Nat.lt_succ_self _
      · rw [hplay, hparty]
    · simp only [hjudge, ← hall] at hpassed
      rw [hpassed]
      obtain ⟨c', hparty⟩ := hparty
      refine ⟨?_, .inl ⟨?_, hmore, c', ?_⟩⟩
      · rw [hsent _ hasks, hnext, List.getElem?_eq_getElem hmore]
        rfl
      · rw [repliesTo_concat, List.length_append, ← hall]
        rfl
      · rw [hplay, hparty]
    · simp only [hjudge, ← hall] at hpassed
      rw [hpassed]
      refine ⟨?_, .inr ⟨.inr hlast, .updated (.ok (.updated refreshed)), ?_⟩⟩
      · rw [hsent _ hasks, hnext, List.getElem?_eq_none (by omega)]
        rfl
      · rw [hplay, hparty]
  · obtain ⟨hstep, hasks, -⟩ := h.reply_over hover reply
    rw [repliesTo_concat, Exchange.passed_concat_of_over hover]
    refine ⟨?_, .inr ⟨?_, o, ?_⟩⟩
    · rw [hsent _ hasks, Option.toList_none, List.append_nil]
    · rw [repliesTo_concat, List.length_append]
      omega
    · rw [hplay, hstep, hparty]

end Catalog

end RunWatch
