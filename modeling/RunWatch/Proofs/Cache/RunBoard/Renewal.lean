import RunWatch.Proofs.Cache.Renewal

/-!
# A board of runs after a reset

A board has two desks, for its runs and for its graph, and remembers a request besides.  A reset starts a new
epoch at both desks and forgets the request, so all three begin anew together (`RunBoard.Since`).  The main
statement, `reset_begins_anew`, holds for caches of any records and for boards: from a reset on nothing that
can be seen of them depends on what came before it, whatever replies are still to arrive.
-/

namespace RunWatch

namespace RunBoard

/-- What an effect of a board comes to. -/
inductive Outcome where
  | changed (o : Cache.Outcome Run)
  | refreshed (o : Except CacheFault (Option (Change Run × Bool)))
  | linked (o : Except CacheFault TaskGraph)

/-- What can happen to a board. -/
inductive Move where
  /-- An effect on the list of runs. -/
  | issue (effect : Effect Run)
  | page (request : PageRequest)
  | refresh
  /-- The graph of a run; `now` is where the clock stands when its tasks are there. -/
  | graph (now : Instant) (run : Uuid)
  /-- A reply arrives for an effect; effects are counted in the order of their issue. -/
  | reply (i : Nat) (reply : Api.Reply)
  | dispatch (change : Change Run)
  /-- The list of runs alone is reset. -/
  | resetRuns
  | reset

/-- An effect, with what it comes to tagged by its sort. -/
def tagged {α : Type} (tag : α → Outcome) (a : Activity RunBoard α) : Activity RunBoard Outcome :=
  a.bind fun o => .finished (tag o)

namespace Move

/-- A move as it happens among the effects at work. -/
def occurrence : Move → Occurrence RunBoard Outcome
  | issue effect => .enters (tagged .changed (onRuns (Cache.perform effect)))
  | page request => .enters (tagged .changed (performPage request))
  | refresh => .enters (tagged .refreshed performRefresh)
  | graph now run => .enters (tagged .linked (performGraph now run))
  | reply i r => .reaches i (.reply r)
  | dispatch change => .passes fun b => { b with runs := b.runs.dispatch change }
  | resetRuns => .passes fun b => { b with runs := b.runs.reset }
  | reset => .passes RunBoard.reset

/-- What a move is for a board that does not know of the first `n` effects. -/
def since (n : Nat) : Move → Option Move
  | reply i r => if i < n then none else some (reply (i - n) r)
  | m => some m

theorem since_occurrence (n : Nat) (m : Move) : (m.since n).map occurrence = m.occurrence.since n := by
  cases m with
  | reply i r =>
    by_cases hi : i < n
    · simp [since, occurrence, Occurrence.since, hi]
    · simp [since, occurrence, Occurrence.since, hi]
  | _ => rfl

end Move

/-- The count of effects issued by some moves. -/
def issued (moves : List Move) : Nat :=
  moves.countP fun m => m.occurrence.isEntry

/-- A board and its effects after some moves. -/
def play (b : RunBoard) (moves : List Move) : Ensemble RunBoard Outcome :=
  (Ensemble.alone b).run (moves.map Move.occurrence)

theorem length_play (b : RunBoard) (moves : List Move) : (b.play moves).parties.length = issued moves :=
  Ensemble.length_run_alone b Move.occurrence moves

theorem play_concat (b : RunBoard) (moves : List Move) (m : Move) :
    b.play (moves ++ [m]) = (b.play moves).step m.occurrence :=
  Ensemble.run_map_concat _ Move.occurrence moves m

/-! ## The epochs of a board -/

/-- The time of a board is the epochs of its two desks. -/
def passage : Passage RunBoard where
  le b b' := (Cache.passage Run).le b.runs b'.runs ∧ b'.tasks = b.tasks ∧
    b.graphDesk.epoch ≤ b'.graphDesk.epoch
  lt b b' := (Cache.passage Run).lt b.runs b'.runs ∧ b.graphDesk.epoch < b'.graphDesk.epoch
  refl b := ⟨(Cache.passage Run).refl b.runs, rfl, Nat.le_refl _⟩
  trans h h' := ⟨(Cache.passage Run).trans h.1 h'.1, h'.2.1.trans h.2.1, Nat.le_trans h.2.2 h'.2.2⟩
  lt_of_le_of_lt h h' := ⟨(Cache.passage Run).lt_of_le_of_lt h.1 h'.1, Nat.lt_of_le_of_lt h.2.2 h'.2⟩

theorem le_of_runs (b : RunBoard) {runs : Cache Run} (h : (Cache.passage Run).le b.runs runs) :
    passage.le b { b with runs } :=
  ⟨h, rfl, Nat.le_refl _⟩

/-- Work on the list of runs that makes no difference there makes none to the board. -/
theorem each_onRuns {b : RunBoard} {α : Type} {a : Activity (Cache Run) α}
    (h : a.Each ((Cache.passage Run).Outdates b.runs)) : (onRuns a).Each (passage.Outdates b) := by
  refine h.within fun change hchange => ⟨fun b' => le_of_runs b' (hchange.1 b'.runs), fun b' hlt => ?_⟩
  change { b' with runs := change b'.runs } = b'
  rw [hchange.2 b'.runs hlt.1]

theorem settleGraph_of_epoch_lt {b : RunBoard} {t : Ticket} (h : t.epoch < b.graphDesk.epoch)
    (graph : TaskGraph) : b.settleGraph t graph = b := by
  rw [settleGraph, TicketDesk.isCurrent_of_epoch_lt h, if_neg Bool.false_ne_true]

theorem le_settleGraph (b : RunBoard) (t : Ticket) (graph : TaskGraph) :
    passage.le b (b.settleGraph t graph) := by
  rw [settleGraph]
  split
  · exact ⟨(Cache.passage Run).refl b.runs, rfl, Nat.le_refl _⟩
  · exact passage.refl b

theorem outdates_completeGraph (now : Instant) {b : RunBoard} {flight : GraphFlight}
    (h : flight.ticket.epoch ≤ b.graphDesk.epoch) :
    (completeGraph now flight).Each (passage.Outdates b) := by
  refine each_completeGraph now fun graph => ⟨fun b' => le_settleGraph b' _ _, fun b' hlt => ?_⟩
  exact settleGraph_of_epoch_lt (Nat.lt_of_le_of_lt h hlt.2) graph

theorem each_tagged {P : (RunBoard → RunBoard) → Prop} {α : Type} {tag : α → Outcome}
    {a : Activity RunBoard α} (h : a.Each P) : (tagged tag a).Each P :=
  h.bind fun _ => trivial

theorem le_reset (b : RunBoard) : passage.le b b.reset :=
  ⟨⟨rfl, rfl, Nat.le_succ _⟩, rfl, Nat.le_succ _⟩

/-- An effect on the list of runs that has just been issued. -/
theorem each_issued (b : RunBoard) (effect : Effect Run) :
    passage.le b (b.issue effect).1 ∧
      (onRuns (Cache.complete (b.issue effect).2)).Each (passage.Outdates (b.issue effect).1) :=
  ⟨le_of_runs b (Cache.le_takeTicket b.runs _),
    each_onRuns (Cache.outdates_complete (Cache.ticket_issue b.runs effect))⟩

/-! ## Effects from their issue on -/

theorem onRuns_perform (effect : Effect Run) :
    onRuns (Cache.perform effect) =
      (Activity.transact fun b : RunBoard => b.issue effect).bind fun flight =>
        onRuns (Cache.complete flight) := rfl

/-- The start of a refresh: the board, and the flight if there is something to fetch. -/
def startRefresh (b : RunBoard) : RunBoard × Option (Flight Run) :=
  match b.issueRefresh with
  | some (b, flight) => (b, some flight)
  | none => (b, none)

theorem performRefresh_eq : performRefresh = (Activity.transact startRefresh).bind completeRefresh := rfl

theorem startRefresh_none {b : RunBoard} (h : b.lastRequest = none) : b.startRefresh = (b, none) := by
  simp [startRefresh, issueRefresh, h]

theorem startRefresh_some {b : RunBoard} {request : PageRequest} (h : b.lastRequest = some request) :
    b.startRefresh = ((b.issue (.loadPage request)).1, some (b.issue (.loadPage request)).2) := by
  simp [startRefresh, issueRefresh, h]

/-- A refresh issues the load of the page remembered, so boards that remember the same page stay related over its
start if they do over the issue of any effect. -/
theorem startRefresh_respects {rel : RunBoard → RunBoard → Prop} {f : Flight Run → Flight Run} {b d : RunBoard}
    (h : rel b d) (hlast : b.lastRequest = d.lastRequest)
    (hissue : ∀ effect, rel (b.issue effect).1 (d.issue effect).1 ∧ (b.issue effect).2 = f (d.issue effect).2) :
    rel b.startRefresh.1 d.startRefresh.1 ∧ b.startRefresh.2 = d.startRefresh.2.map f := by
  cases hd : d.lastRequest with
  | none =>
    rw [startRefresh_none (hlast.trans hd), startRefresh_none hd]
    exact ⟨h, rfl⟩
  | some request =>
    rw [startRefresh_some (hlast.trans hd), startRefresh_some hd]
    obtain ⟨hrel, hflight⟩ := hissue (.loadPage request)
    exact ⟨hrel, congrArg some hflight⟩

theorem tagged_transact {α β : Type} (tag : α → Outcome) (f : RunBoard → RunBoard × β)
    (g : β → Activity RunBoard α) :
    tagged tag ((Activity.transact f).bind g) = (Activity.transact f).bind fun x => tagged tag (g x) := rfl

/-- A party whose work makes no difference past the state in which its first change leaves the board. -/
theorem passing_tagged {α β : Type} (tag : α → Outcome) {f : RunBoard → RunBoard × β}
    {g : β → Activity RunBoard α}
    (h : ∀ b, passage.le b (f b).1 ∧ (g (f b).2).Each (passage.Outdates (f b).1)) :
    Occurrence.Passing passage (.enters (tagged tag ((Activity.transact f).bind g))) := by
  rw [tagged_transact]
  exact Occurrence.passing_transact fun b => ⟨(h b).1, each_tagged (h b).2⟩

theorem Move.passing (m : Move) : m.occurrence.Passing passage := by
  cases m with
  | issue effect =>
    rw [occurrence, onRuns_perform]
    exact passing_tagged _ fun b => each_issued b effect
  | page request =>
    refine passing_tagged _ fun b => ?_
    exact each_issued { b with lastRequest := some request } (.loadPage request)
  | refresh =>
    rw [occurrence, performRefresh_eq]
    refine passing_tagged _ fun b => ?_
    cases h : b.lastRequest with
    | none =>
      rw [startRefresh_none h]
      exact ⟨passage.refl b, trivial⟩
    | some request =>
      rw [startRefresh_some h]
      obtain ⟨hle, heach⟩ := each_issued b (.loadPage request)
      exact ⟨hle, heach.bind fun _ => trivial⟩
  | graph now run =>
    refine passing_tagged _ fun b => ?_
    exact ⟨⟨(Cache.passage Run).refl b.runs, rfl, Nat.le_refl _⟩, outdates_completeGraph now (Nat.le_refl _)⟩
  | reply i r => trivial
  | dispatch change => exact fun b => le_of_runs b ⟨rfl, rfl, Nat.le_refl _⟩
  | resetRuns => exact fun b => le_of_runs b ⟨rfl, rfl, Nat.le_succ _⟩
  | reset => exact le_reset

/-! ## Boards with a past -/

/-- `old` has gone on from `start` as `new` has from a beginning. -/
structure Since (start old new : RunBoard) : Prop where
  runs : Cache.Since start.runs old.runs new.runs
  tasks : old.tasks = new.tasks
  graph : old.graph.value = new.graph.value
  version : old.graph.version = start.graph.version + new.graph.version
  graphDesk : old.graphDesk = start.graphDesk.beyond new.graphDesk
  lastRequest : old.lastRequest = new.lastRequest

/-- A graph flight as a desk that goes on where another one stands lets it go. -/
def graphBeyond (past : TicketDesk) (flight : GraphFlight) : GraphFlight :=
  ⟨past.ticketBeyond flight.ticket, flight.run, flight.dialogue⟩

namespace Since

variable {start old new : RunBoard}

theorem withRuns (h : Since start old new) {runs runs' : Cache Run} (hruns : Cache.Since start.runs runs runs') :
    Since start { old with runs } { new with runs := runs' } :=
  ⟨hruns, h.tasks, h.graph, h.version, h.graphDesk, h.lastRequest⟩

theorem reset (h : Since start old new) : Since start old.reset new.reset := by
  refine ⟨h.runs.reset, h.tasks, rfl, congrArg (· + 1) h.version, ?_, rfl⟩
  change old.graphDesk.invalidate = _
  rw [h.graphDesk]
  rfl

theorem issue (h : Since start old new) (effect : Effect Run) :
    Since start (old.issue effect).1 (new.issue effect).1 ∧
      (old.issue effect).2 = Cache.flightBeyond start.runs.desk (new.issue effect).2 := by
  obtain ⟨hruns, hflight⟩ := h.runs.issue effect
  exact ⟨h.withRuns hruns, hflight⟩

theorem issuePage (h : Since start old new) (request : PageRequest) :
    Since start (old.issuePage request).1 (new.issuePage request).1 ∧
      (old.issuePage request).2 = Cache.flightBeyond start.runs.desk (new.issuePage request).2 := by
  have hremembered : Since start { old with lastRequest := some request }
      { new with lastRequest := some request } :=
    ⟨h.runs, h.tasks, h.graph, h.version, h.graphDesk, rfl⟩
  exact hremembered.issue (.loadPage request)

theorem startRefresh (h : Since start old new) :
    Since start old.startRefresh.1 new.startRefresh.1 ∧
      old.startRefresh.2 = new.startRefresh.2.map (Cache.flightBeyond start.runs.desk) :=
  startRefresh_respects h h.lastRequest h.issue

theorem issueGraph (h : Since start old new) (run : Uuid) :
    Since start (old.issueGraph run).1 (new.issueGraph run).1 ∧
      (old.issueGraph run).2 = graphBeyond start.graphDesk (new.issueGraph run).2 := by
  have htake := TicketDesk.beyond_take start.graphDesk new.graphDesk true
  rw [← h.graphDesk] at htake
  refine ⟨⟨h.runs, h.tasks, h.graph, h.version, congrArg Prod.fst htake, h.lastRequest⟩, ?_⟩
  change GraphFlight.mk (old.graphDesk.take true).2 run (old.tasks.findAll (.under run)) = _
  rw [htake, h.tasks]
  rfl

theorem settleGraph (h : Since start old new) (t : Ticket) (graph : TaskGraph) :
    Since start (old.settleGraph (start.graphDesk.ticketBeyond t) graph) (new.settleGraph t graph) := by
  have hcurrent : old.graphDesk.isCurrent (start.graphDesk.ticketBeyond t) = new.graphDesk.isCurrent t := by
    rw [h.graphDesk, TicketDesk.isCurrent_beyond]
  rw [RunBoard.settleGraph, RunBoard.settleGraph, hcurrent]
  split
  · exact ⟨h.runs, h.tasks, rfl, congrArg (· + 1) h.version, h.graphDesk, h.lastRequest⟩
  · exact h

end Since

theorem alike_onRuns {start : RunBoard} {α : Type} {a b : Activity (Cache Run) α}
    (h : Activity.Alike (Cache.Since start.runs) Eq a b) :
    Activity.Alike (Since start) Eq (onRuns a) (onRuns b) :=
  h.within (fun _ _ hsince => hsince.runs) fun _ _ _ _ hsince hruns => hsince.withRuns hruns

/-- A load of the runs in flight does the same to both. -/
theorem alike_load (start : RunBoard) (flight : Flight Run) :
    Activity.Alike (Since start) Eq
      (onRuns (Cache.complete (Cache.flightBeyond start.runs.desk flight)))
      (onRuns (Cache.complete flight)) :=
  alike_onRuns (Cache.alike_complete start.runs flight)

theorem alike_performPage (start : RunBoard) (request : PageRequest) :
    Activity.Alike (Since start) Eq (performPage request) (performPage request) := by
  refine (Activity.Alike.transact (fun flight flight' => flight = Cache.flightBeyond start.runs.desk flight')
    fun old new h => h.issuePage request).bind ?_
  rintro _ flight rfl
  exact alike_load start flight

theorem alike_performRefresh (start : RunBoard) :
    Activity.Alike (Since start) Eq performRefresh performRefresh := by
  rw [performRefresh_eq]
  refine (Activity.Alike.transact
    (fun flight flight' => flight = flight'.map (Cache.flightBeyond start.runs.desk))
    fun old new h => h.startRefresh).bind ?_
  rintro _ (_ | flight) rfl
  · exact .finished rfl
  · refine (alike_load start flight).bind ?_
    rintro o _ rfl
    exact .finished rfl

theorem alike_performGraph (start : RunBoard) (now : Instant) (run : Uuid) :
    Activity.Alike (Since start) Eq (performGraph now run) (performGraph now run) := by
  refine (Activity.Alike.transact (fun flight flight' => flight = graphBeyond start.graphDesk flight')
    fun old new h => h.issueGraph run).bind ?_
  rintro _ flight rfl
  exact alike_completeGraph now rfl rfl fun old new graph h => h.settleGraph flight.ticket graph

theorem alike_tagged {rel : RunBoard → RunBoard → Prop} {α : Type} (tag : α → Outcome) {a b : Activity RunBoard α}
    (h : a.Alike rel Eq b) : (tagged tag a).Alike rel Eq (tagged tag b) :=
  h.bind fun _ _ heq => .finished (congrArg tag heq)

theorem Move.respects (start : RunBoard) (m : Move) : m.occurrence.Respects (Since start) := by
  cases m with
  | issue effect => exact alike_tagged _ (alike_onRuns (Cache.alike_perform start.runs effect))
  | page request => exact alike_tagged _ (alike_performPage start request)
  | refresh => exact alike_tagged _ (alike_performRefresh start)
  | graph now run => exact alike_tagged _ (alike_performGraph start now run)
  | reply i r => trivial
  | dispatch change => exact fun old new h => h.withRuns (h.runs.dispatch change)
  | resetRuns => exact fun old new h => h.withRuns h.runs.reset
  | reset => exact fun old new h => h.reset

/-! ## Beginning anew -/

/-- A reset leads a board to where it once began. -/
theorem Since.of_reset {client : Api.Client} {b : RunBoard} (h : passage.le (new client) b) :
    Since b.reset b.reset (new client) :=
  ⟨Cache.Since.of_reset h.1, h.2.1, rfl, rfl, rfl, rfl⟩

/-- What has gone on from a reset is later than what was before it. -/
theorem Since.lt {b old new : RunBoard} (h : Since b.reset old new) : passage.lt b old := by
  refine ⟨h.runs.lt, ?_⟩
  have hepoch : old.graphDesk.epoch = b.graphDesk.epoch + 1 + new.graphDesk.epoch :=
    congrArg TicketDesk.epoch h.graphDesk
  omega

theorem le_play (b : RunBoard) (moves : List Move) : passage.le b (b.play moves).state := by
  refine ((Ensemble.outdated_alone passage b).run ?_).1
  intro o ho
  obtain ⟨m, -, rfl⟩ := List.mem_map.mp ho
  exact m.passing

/-- After a reset a board goes on as if it had just begun. -/
theorem renewed (client : Api.Client) (past future : List Move) :
    Ensemble.Renewed passage ((new client).play past).state (Since ((new client).play past).state.reset)
      (issued past) ((new client).play (past ++ .reset :: future))
      ((new client).play (future.filterMap (Move.since (issued past)))) := by
  rw [← (new client).length_play past]
  exact Ensemble.renewed_moves Move.since_occurrence rfl Move.passing (Move.respects _)
    (Since.of_reset ((new client).le_play past)) fun old new h => h.lt

end RunBoard

/-! ## Main statement -/

/-- A reset erases the past.  From it on, whatever happens and whatever replies arrive to what was issued
before it, a cache of any records shows the same listing, publishes it as often and sends and answers the
same as one that has just begun and in which only what has happened since the reset happens; and a board of
runs shows the same runs and the same graph, and remembers and fetches again the same request. -/
theorem reset_begins_anew :
    (∀ (R : Type) [Record R] (endpoint : Api.Endpoint R) (initial : Listing R)
        (past future : List (Cache.Move R)),
      let fresh := Cache.startingFrom endpoint initial
      let start := (fresh.play (past ++ [.reset])).state
      let old := fresh.play (past ++ .reset :: future)
      let new := fresh.play (future.filterMap (Cache.Move.since (Cache.issued past)))
      old.state.listing = new.state.listing ∧
      old.state.state.version = start.state.version + new.state.state.version ∧
      (old.parties.drop (Cache.issued past)).map Party.sight = new.parties.map Party.sight) ∧
    ∀ (client : Api.Client) (past future : List RunBoard.Move),
      let fresh := RunBoard.new client
      let start := (fresh.play (past ++ [.reset])).state
      let old := fresh.play (past ++ .reset :: future)
      let new := fresh.play (future.filterMap (RunBoard.Move.since (RunBoard.issued past)))
      old.state.runs.listing = new.state.runs.listing ∧
      old.state.runs.state.version = start.runs.state.version + new.state.runs.state.version ∧
      old.state.graph.value = new.state.graph.value ∧
      old.state.graph.version = start.graph.version + new.state.graph.version ∧
      old.state.lastRequest = new.state.lastRequest ∧
      (RunBoard.performRefresh.advance old.state).2.sight =
        (RunBoard.performRefresh.advance new.state).2.sight ∧
      (old.parties.drop (RunBoard.issued past)).map Party.sight = new.parties.map Party.sight := by
  refine ⟨?_, ?_⟩
  · intro R _ endpoint initial past future fresh start old new
    have hrenewed := Cache.renewed endpoint initial past future
    have hstart : start = (fresh.play past).state.reset := congrArg Ensemble.state (fresh.play_concat past _)
    refine ⟨hrenewed.state.listing, ?_, hrenewed.sight⟩
    rw [hstart]
    exact hrenewed.state.version
  · intro client past future fresh start old new
    have hrenewed := RunBoard.renewed client past future
    have hstart : start = (fresh.play past).state.reset := congrArg Ensemble.state (fresh.play_concat past _)
    have hrefresh := (RunBoard.alike_performRefresh _).advance hrenewed.state
    have h := hrenewed.state
    rw [← hstart] at h
    exact ⟨h.runs.listing, h.runs.version, h.graph, h.version, h.lastRequest, hrefresh.2.sight, hrenewed.sight⟩

end RunWatch
