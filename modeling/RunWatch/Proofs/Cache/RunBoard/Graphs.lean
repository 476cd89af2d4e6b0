import RunWatch.Proofs.Cache.Channel
import RunWatch.Proofs.Cache.RunBoard.Renewal
import RunWatch.Proofs.Ensemble.Parts
import RunWatch.Proofs.TaskGraph.Links

/-!
# The graph of a board

The graph of a board is a guarded channel (`graphing`): each call that looks at a run brings a graph of its own, and the
graph shown is replaced as a whole, so it is always the graph of one call.  Which call that is follows from what happened
between its issue and its last reply.  Runs and graph are parts of one history (`part`), and each of them comes to the
same as it does when the moves of the other are left out; only a reset of the board belongs to both.
-/

namespace RunWatch

/-- A graph of the tasks of a run, linked as they stood at some moment. -/
structure TaskGraph.Shows (now : Instant) (run : Uuid) (g : TaskGraph) : Prop where
  run : g.run = some run
  edges : g.edges = linkTasks now g.tasks
  ends : ∀ e ∈ g.edges, (∃ t ∈ g.tasks, t.id = e.source) ∧ ∃ t ∈ g.tasks, t.id = e.target

/-- Links stand between the tasks that were given. -/
theorem exists_task_of_mem_linkTasks {now : Instant} {tasks : List RunTask} {e : Edge} (he : e ∈ linkTasks now tasks) :
    (∃ t ∈ tasks, t.id = e.source) ∧ ∃ t ∈ tasks, t.id = e.target := by
  obtain ⟨a, ha, b, hb, -, rfl⟩ := exists_linked_of_mem_link he
  obtain ⟨t, ht, rfl⟩ := List.mem_map.mp ha
  obtain ⟨t', ht', rfl⟩ := List.mem_map.mp hb
  exact ⟨⟨t, ht, rfl⟩, t', ht', rfl⟩

theorem TaskGraph.shows_ofTasks (now : Instant) (run : Uuid) (tasks : List RunTask) :
    (TaskGraph.ofTasks now run tasks).Shows now run :=
  ⟨rfl, rfl, fun _ he => exists_task_of_mem_linkTasks he⟩

namespace RunBoard

/-! ## Parts -/

namespace Move

/-- Whether a move other than a reply is about the runs. -/
def inRuns : Move → Bool
  | graph _ _ => false
  | _ => true

/-- Whether a move other than a reply is about the graph. -/
def inGraph : Move → Bool
  | graph _ _ | reset => true
  | _ => false

/-- What a move is for one part of the board; a reply belongs where the effect does that it is for. -/
def inPart (belongs : Move → Bool) (roll : List Bool) : Move → Option Move
  | reply i r => (placeAmong roll i).map (reply · r)
  | m => if belongs m then some m else none

theorem inPart_occurrence (belongs : Move → Bool) (roll : List Bool) (m : Move) :
    (m.inPart belongs roll).map occurrence = m.occurrence.inPart (belongs m) roll := by
  cases m with
  | reply i r => exact Option.map_map _ _ _
  | _ =>
    simp only [inPart, occurrence, Occurrence.inPart]
    split <;> rfl

end Move

/-- The moves of one part, as if there were no other. -/
def part (belongs : Move → Bool) (moves : List Move) : List Move :=
  partOf Move.occurrence belongs (Move.inPart belongs) [] moves

/-- Which of the effects that some moves issue belong to one part. -/
def partRoll (belongs : Move → Bool) (moves : List Move) : List Bool :=
  rollOf Move.occurrence belongs moves

/-! ## The runs -/

/-- Two boards with the same runs. -/
structure SameRuns (b d : RunBoard) : Prop where
  runs : b.runs = d.runs
  lastRequest : b.lastRequest = d.lastRequest

/-- A change that leaves the runs alone. -/
def KeepsRuns (change : RunBoard → RunBoard) : Prop :=
  ∀ b, SameRuns (change b) b

theorem KeepsRuns.unnoticed {change : RunBoard → RunBoard} (h : KeepsRuns change) : Unnoticed SameRuns change :=
  fun b _ hbd => ⟨(h b).runs.trans hbd.runs, (h b).lastRequest.trans hbd.lastRequest⟩

theorem keepsRuns_settleGraph (t : Ticket) (graph : TaskGraph) : KeepsRuns fun b => b.settleGraph t graph := by
  intro b
  change SameRuns (b.settleGraph t graph) b
  unfold settleGraph
  split
  · exact ⟨rfl, rfl⟩
  · exact ⟨rfl, rfl⟩

/-- Whatever is not about the runs leaves them alone. -/
theorem makes_keepsRuns {m : Move} (h : m.inRuns = false) : m.occurrence.Makes KeepsRuns := by
  cases m with
  | graph now run =>
    have heach : (performGraph now run).Each KeepsRuns :=
      ⟨fun b => ⟨rfl, rfl⟩, fun b => each_completeGraph now (keepsRuns_settleGraph _)⟩
    exact heach.bind fun _ => trivial
  | reply i r => trivial
  | _ => cases h

/-- Work on the runs is the same on both. -/
theorem sameRuns_onRuns {α : Type} (a : Activity (Cache Run) α) : (onRuns a).Alike SameRuns Eq (onRuns a) :=
  (Activity.Alike.refl a).within (fun _ _ h => h.runs) fun _ _ _ _ h hxy => ⟨hxy, h.lastRequest⟩

theorem sameRuns_issue {b d : RunBoard} (h : SameRuns b d) (effect : Effect Run) :
    SameRuns (b.issue effect).1 (d.issue effect).1 ∧ (b.issue effect).2 = (d.issue effect).2 :=
  ⟨⟨congrArg (fun runs => (runs.issue effect).1) h.runs, h.lastRequest⟩,
    congrArg (fun runs => (runs.issue effect).2) h.runs⟩

theorem sameRuns_startRefresh {b d : RunBoard} (h : SameRuns b d) :
    SameRuns b.startRefresh.1 d.startRefresh.1 ∧ b.startRefresh.2 = d.startRefresh.2 := by
  simpa using startRefresh_respects (f := id) h h.lastRequest (sameRuns_issue h)

/-- Whatever is about the runs does the same to both. -/
theorem respects_sameRuns {m : Move} (h : m.inRuns = true) : m.occurrence.Respects SameRuns := by
  cases m with
  | issue effect => exact alike_tagged _ (sameRuns_onRuns _)
  | page request =>
    refine alike_tagged _ ((Activity.Alike.transact Eq fun b d hbd => ?_).bind ?_)
    · have hremembered : SameRuns { b with lastRequest := some request } { d with lastRequest := some request } :=
        ⟨hbd.runs, rfl⟩
      exact sameRuns_issue hremembered (.loadPage request)
    · rintro flight _ rfl
      exact sameRuns_onRuns _
  | refresh =>
    refine alike_tagged _ ?_
    rw [performRefresh_eq]
    refine (Activity.Alike.transact Eq fun b d hbd => sameRuns_startRefresh hbd).bind ?_
    rintro (_ | flight) _ rfl
    · exact .finished rfl
    · exact (sameRuns_onRuns _).bind fun _ _ ho => .finished (congrArg _ ho)
  | reply i r => trivial
  | dispatch change => exact fun b d hbd => ⟨congrArg (·.dispatch change) hbd.runs, hbd.lastRequest⟩
  | resetRuns => exact fun b d hbd => ⟨congrArg Cache.reset hbd.runs, hbd.lastRequest⟩
  | reset => exact fun b d hbd => ⟨congrArg Cache.reset hbd.runs, rfl⟩
  | graph now run => cases h

/-- The runs come to the same, and so do their effects, if no graph is ever asked for. -/
theorem runs_apart (b : RunBoard) (moves : List Move) :
    SameRuns (b.play moves).state (b.play (part Move.inRuns moves)).state ∧
      among (partRoll Move.inRuns moves) ((b.play moves).parties.map Party.sight) =
        (b.play (part Move.inRuns moves)).parties.map Party.sight :=
  Ensemble.parted_moves (Move.inPart_occurrence Move.inRuns) (fun _ h => respects_sameRuns h)
    (fun _ h => (makes_keepsRuns h).mono fun _ hchange => hchange.unnoticed) ⟨rfl, rfl⟩ moves

/-! ## The graph -/

/-- Two boards with the same graph. -/
structure SameGraph (b d : RunBoard) : Prop where
  graph : b.graph = d.graph
  desk : b.graphDesk = d.graphDesk
  tasks : b.tasks = d.tasks

/-- A change that leaves the graph alone. -/
def KeepsGraph (change : RunBoard → RunBoard) : Prop :=
  ∀ b, SameGraph (change b) b

theorem KeepsGraph.unnoticed {change : RunBoard → RunBoard} (h : KeepsGraph change) : Unnoticed SameGraph change :=
  fun b _ hbd => ⟨(h b).graph.trans hbd.graph, (h b).desk.trans hbd.desk, (h b).tasks.trans hbd.tasks⟩

theorem keepsGraph_onRuns {α : Type} (a : Activity (Cache Run) α) : (onRuns a).Each KeepsGraph :=
  (Activity.each_true a).within fun _ _ _ => ⟨rfl, rfl, rfl⟩

theorem keepsGraph_startRefresh : KeepsGraph fun b => b.startRefresh.1 := by
  intro b
  change SameGraph b.startRefresh.1 b
  cases hlast : b.lastRequest with
  | none =>
    rw [startRefresh_none hlast]
    exact ⟨rfl, rfl, rfl⟩
  | some request =>
    rw [startRefresh_some hlast]
    exact ⟨rfl, rfl, rfl⟩

/-- Whatever is not about the graph leaves it alone. -/
theorem makes_keepsGraph {m : Move} (h : m.inGraph = false) : m.occurrence.Makes KeepsGraph := by
  cases m with
  | issue effect => exact each_tagged (keepsGraph_onRuns _)
  | page request =>
    have heach : (performPage request).Each KeepsGraph :=
      ⟨fun b => ⟨rfl, rfl, rfl⟩, fun b => keepsGraph_onRuns (Cache.complete (b.issuePage request).2)⟩
    exact each_tagged heach
  | refresh =>
    have heach : performRefresh.Each KeepsGraph := by
      refine ⟨keepsGraph_startRefresh, fun b => ?_⟩
      change (completeRefresh b.startRefresh.2).Each KeepsGraph
      cases b.startRefresh.2 with
      | none => trivial
      | some flight => exact (keepsGraph_onRuns _).bind fun _ => trivial
    exact each_tagged heach
  | reply i r => trivial
  | dispatch change => exact fun b => ⟨rfl, rfl, rfl⟩
  | resetRuns => exact fun b => ⟨rfl, rfl, rfl⟩
  | _ => cases h

theorem sameGraph_settleGraph {b d : RunBoard} (h : SameGraph b d) (t : Ticket) (graph : TaskGraph) :
    SameGraph (b.settleGraph t graph) (d.settleGraph t graph) := by
  have hcurrent : b.graphDesk.isCurrent t = d.graphDesk.isCurrent t := congrArg (·.isCurrent t) h.desk
  unfold settleGraph
  rw [hcurrent]
  split
  · exact ⟨congrArg (·.publish graph) h.graph, h.desk, h.tasks⟩
  · exact h

/-- Whatever is about the graph does the same to both. -/
theorem respects_sameGraph {m : Move} (h : m.inGraph = true) : m.occurrence.Respects SameGraph := by
  cases m with
  | graph now run =>
    refine alike_tagged _ ((Activity.Alike.transact Eq fun b d hbd => ?_).bind ?_)
    · refine ⟨⟨hbd.graph, congrArg (·.list.1) hbd.desk, hbd.tasks⟩, ?_⟩
      unfold issueGraph
      rw [hbd.desk, hbd.tasks]
    · rintro flight _ rfl
      exact alike_completeGraph now rfl rfl fun b d graph hbd => sameGraph_settleGraph hbd flight.ticket graph
  | reset =>
    exact fun b d hbd => ⟨congrArg (·.publish .empty) hbd.graph, congrArg TicketDesk.invalidate hbd.desk, hbd.tasks⟩
  | _ => cases h

/-- The graph comes to the same, and so do the calls for it, if nothing is ever done with the runs. -/
theorem graph_apart (b : RunBoard) (moves : List Move) :
    SameGraph (b.play moves).state (b.play (part Move.inGraph moves)).state ∧
      among (partRoll Move.inGraph moves) ((b.play moves).parties.map Party.sight) =
        (b.play (part Move.inGraph moves)).parties.map Party.sight :=
  Ensemble.parted_moves (Move.inPart_occurrence Move.inGraph) (fun _ h => respects_sameGraph h)
    (fun _ h => (makes_keepsGraph h).mono fun _ hchange => hchange.unnoticed) ⟨rfl, rfl, rfl⟩ moves

/-! ## Whose graph is shown -/

/-- The graph as a channel: what a call brings replaces what is shown. -/
def graphChannel : Channel RunBoard Outcome (Instant × Uuid) TaskGraph TaskGraph where
  desk := RunBoard.graphDesk
  shown := RunBoard.graph
  empty := .empty
  join _ graph _ := graph
  fits q graph := ∃ tasks, graph = .ofTasks q.1 q.2 tasks
  settle t _ graph b := b.settleGraph t graph
  failed fault := .linked (.error fault)
  done graph := .linked (.ok graph)
  settle_desk t _ graph b := by
    unfold settleGraph
    split <;> rfl
  settle_shown t _ graph b := by
    unfold settleGraph
    split <;> rfl
  done_injective graph graph' h := Except.ok.inj (Outcome.linked.inj h)
  done_ne_failed graph fault h := by cases Outcome.linked.inj h

theorem working_completeGraph (now : Instant) (flight : GraphFlight) :
    graphChannel.Working flight.ticket (now, flight.run) (tagged .linked (completeGraph now flight)) := by
  refine Activity.settles_ofDialogue ?_ flight.dialogue
  rintro (fault | page)
  · exact .failed _
  · exact .settled ⟨page.items, rfl⟩

namespace Move

/-- The run whose graph a move asks for, and where the clock stands when its tasks are there. -/
def looksAt? : Move → Option (Instant × Uuid)
  | graph now run => some (now, run)
  | _ => none

/-- Whether a move forgets the graph. -/
def clears : Move → Bool
  | reset => true
  | _ => false

end Move

/-- What the moves of a board do with its graph. -/
def graphing : graphChannel.Use Move where
  occurrence := Move.occurrence
  asks? := Move.looksAt?
  clears := Move.clears
  asking m q h := by
    cases m with
    | graph now run =>
      obtain rfl := Option.some.inj h
      refine ⟨_, rfl, fun b => ⟨rfl, rfl, rfl, ?_⟩⟩
      exact graphChannel.working_steady _ _ _ (working_completeGraph now (b.issueGraph run).2) _
    | _ => cases h
  clearing m h := by
    cases m with
    | reset => exact ⟨_, rfl, fun b => ⟨rfl, rfl⟩⟩
    | _ => cases h
  idling m hasks hclears := by
    refine (makes_keepsGraph ?_).mono fun change hchange b => ⟨(hchange b).desk, (hchange b).graph⟩
    cases m with
    | graph now run => cases hasks
    | reset => cases hclears
    | _ => rfl

/-- No graph is asked for, and the board is not reset. -/
def Undisturbed (moves : List Move) : Prop :=
  ∀ m ∈ moves, (∀ now run, m ≠ .graph now run) ∧ m ≠ .reset

theorem undisturbed_iff {moves : List Move} : graphing.Undisturbed moves ↔ Undisturbed moves := by
  refine forall₂_congr fun m _ => ?_
  cases m <;> simp [graphing, Move.looksAt?, Move.clears]

/-- What is shown is the graph that landed last. -/
theorem foldl_landings (landings : List (Nat × (Instant × Uuid) × TaskGraph)) :
    landings.foldl (fun g landing => graphChannel.join landing.2.1 landing.2.2 g) graphChannel.empty =
      (landings.getLast?.map fun landing => landing.2.2).getD .empty := by
  rcases List.eq_nil_or_concat landings with rfl | ⟨earlier, landing, rfl⟩
  · rfl
  · simp [graphChannel]

/-- The graph shown is that of one call, which asked for it before and was answered with it, unless there is none. -/
theorem graph_cases (b : RunBoard) (h : b.graph.value = .empty) (moves : List Move) :
    (b.play moves).state.graph.value = .empty ∨
      ∃ before now run between r rest, moves = before ++ .graph now run :: between ++ .reply (issued before) r :: rest ∧
        (b.play (before ++ .graph now run :: between)).ending? (Move.reply (issued before) r).occurrence =
          some (issued before, .linked (.ok (b.play moves).state.graph.value)) := by
  obtain ⟨landings, -, hmem, hvalue⟩ := graphing.exists_landings (s := b) h moves
  rw [foldl_landings] at hvalue
  cases hlast : landings.getLast? with
  | none =>
    rw [hlast] at hvalue
    exact .inl hvalue
  | some landing =>
    rw [hlast] at hvalue
    obtain ⟨done, m, rest, rfl, ⟨before, m', between, rfl, hplace, hm', hending, -⟩, -⟩ :=
      (hmem landing).mp (List.mem_of_getLast? hlast)
    obtain ⟨now, run, rfl⟩ : ∃ now run, m' = .graph now run := by
      cases m' with
      | graph now run => exact ⟨now, run, rfl⟩
      | _ => cases hm'
    rw [← hplace] at hending
    obtain ⟨signal, ho⟩ := Channel.Use.reaches_of_ending? hm' hending
    cases m with
    | reply j r =>
      obtain ⟨rfl, -⟩ := Occurrence.reaches.inj ho
      exact .inr ⟨before, now, run, between, r, rest, rfl, hvalue ▸ hending⟩
    | _ => cases ho

/-- The graph that a call is answered with shows the tasks of its run, and is itself shown if and only if nothing has
been asked for or reset since the call. -/
theorem shown_of_call {b : RunBoard} {before between : List Move} {now : Instant} {run : Uuid} {r : Api.Reply}
    {g : TaskGraph} (hending : (b.play (before ++ .graph now run :: between)).ending?
      (Move.reply (issued before) r).occurrence = some (issued before, .linked (.ok g))) :
    let old := (b.play (before ++ .graph now run :: between)).state.graph
    let new := (b.play (before ++ .graph now run :: between ++ [.reply (issued before) r])).state.graph
    g.Shows now run ∧ (Undisturbed between → new = old.publish g) ∧ (¬Undisturbed between → new = old) := by
  intro old new
  have hasks : graphing.asks? (.graph now run) = some (now, run) := rfl
  have hending' : (graphing.play b (before ++ .graph now run :: between)).ending?
      (graphing.occurrence (.reply (issued before) r)) = some (graphing.issued before, graphChannel.done g) := hending
  obtain ⟨⟨tasks, rfl⟩, hshown, hsame⟩ := Channel.Use.shown_of_ending? hasks hending'
  exact ⟨TaskGraph.shows_ofTasks now run tasks, fun h => hshown (undisturbed_iff.mpr h),
    fun h => hsame (mt undisturbed_iff.mp h)⟩

/-- However calls for graphs, effects on the runs, their replies and failures and resets overlap, the graph shown is that
of no run or just what one call was answered with: the tasks of its run, linked as they stood at its last reply.  The
graph of a call is shown if and only if nothing else was asked for and nothing was reset from its issue to its last
reply; no other move but a reset changes what is shown.  Runs and graph come to the same without each other. -/
theorem graph_shown_is_of_one_call (client : Api.Client) (moves : List Move) :
    let b := RunBoard.new client
    ((b.play moves).state.graph.value = .empty ∨
      ∃ before now run between r rest, moves = before ++ .graph now run :: between ++ .reply (issued before) r :: rest ∧
        (b.play (before ++ .graph now run :: between)).ending? (Move.reply (issued before) r).occurrence =
          some (issued before, .linked (.ok (b.play moves).state.graph.value)) ∧
        (b.play moves).state.graph.value.Shows now run) ∧
    (∀ before now run between r g, moves = before ++ .graph now run :: between →
      (b.play moves).ending? (Move.reply (issued before) r).occurrence = some (issued before, .linked (.ok g)) →
      g.Shows now run ∧
      (Undisturbed between →
        (b.play (moves ++ [.reply (issued before) r])).state.graph = (b.play moves).state.graph.publish g) ∧
      (¬Undisturbed between →
        (b.play (moves ++ [.reply (issued before) r])).state.graph = (b.play moves).state.graph)) ∧
    (∀ m, m ≠ .reset → (∀ i g, (b.play moves).ending? m.occurrence ≠ some (i, .linked (.ok g))) →
      (b.play (moves ++ [m])).state.graph = (b.play moves).state.graph) ∧
    (let runs := b.play (part Move.inRuns moves);
      (b.play moves).state.runs = runs.state.runs ∧
      (b.play moves).state.lastRequest = runs.state.lastRequest ∧
      among (partRoll Move.inRuns moves) ((b.play moves).parties.map Party.sight) = runs.parties.map Party.sight) ∧
    (let graph := b.play (part Move.inGraph moves);
      (b.play moves).state.graph = graph.state.graph ∧
      among (partRoll Move.inGraph moves) ((b.play moves).parties.map Party.sight) =
        graph.parties.map Party.sight) := by
  intro b
  refine ⟨?_, ?_, ?_, ?_, ?_⟩
  · obtain hempty | ⟨before, now, run, between, r, rest, hmoves, hending⟩ := graph_cases b rfl moves
    · exact .inl hempty
    · exact .inr ⟨before, now, run, between, r, rest, hmoves, hending, (shown_of_call hending).1⟩
  · rintro before now run between r g rfl hending
    exact shown_of_call hending
  · intro m hreset hno
    refine Channel.Use.shown_of_not_lands (u := graphing) ?_ ?_
    · cases m with
      | reset => exact absurd rfl hreset
      | _ => rfl
    · rintro ⟨i, q, g, _, _, _, -, -, -, hending, -⟩
      exact hno i g hending
  · obtain ⟨hstate, hsights⟩ := b.runs_apart moves
    exact ⟨hstate.runs, hstate.lastRequest, hsights⟩
  · obtain ⟨hstate, hsights⟩ := b.graph_apart moves
    exact ⟨hstate.graph, hsights⟩

/-- Of two calls that overlap, only the later one is shown, whichever is answered first. -/
theorem later_of_overlapping_calls_shown :
    let client : Api.Client := ⟨"http://api.test"⟩
    let run (d : Fin 16) : Uuid := ⟨List.replicate 32 d, rfl⟩
    let noon : Instant := ⟨⟨2026, 10, 1, by decide⟩, 43200, 0, by decide⟩
    let noTasks : Api.Reply := .response ⟨200, "\x7b\"entities\":[],\"total\":0\x7d"⟩
    let moves : List Move := [.graph noon (run 1), .graph noon (run 2)]
    let old := ((RunBoard.new client).play moves).state.graph
    ((RunBoard.new client).play (moves ++ [.reply 0 noTasks])).state.graph = old ∧
      ((RunBoard.new client).play (moves ++ [.reply 1 noTasks])).state.graph =
        old.publish (.ofTasks noon (run 2) []) := by
  intro client run noon noTasks moves old
  have hdecode : noTasks.decode (Page.codec RunTask) = .ok (Page.empty RunTask) := by decide +kernel
  generalize noTasks = r at hdecode
  have hfirst : ((RunBoard.new client).play moves).ending? (Move.reply 0 r).occurrence =
      some (0, .linked (.ok (.ofTasks noon (run 1) []))) := by
    refine Ensemble.ending?_reaches.mpr ⟨rfl, _, rfl, ?_⟩
    beta_reduce
    rw [hdecode]
    rfl
  have hsecond : ((RunBoard.new client).play moves).ending? (Move.reply 1 r).occurrence =
      some (1, .linked (.ok (.ofTasks noon (run 2) []))) := by
    refine Ensemble.ending?_reaches.mpr ⟨rfl, _, rfl, ?_⟩
    beta_reduce
    rw [hdecode]
    rfl
  obtain ⟨-, hcall, -⟩ := graph_shown_is_of_one_call client moves
  have hdisturbed : ¬Undisturbed [.graph noon (run 2)] := fun h =>
    (h _ List.mem_cons_self).1 noon (run 2) rfl
  have hundisturbed : Undisturbed [] := fun m hm => absurd hm List.not_mem_nil
  exact ⟨(hcall [] noon (run 1) _ r _ rfl hfirst).2.2 hdisturbed,
    (hcall [.graph noon (run 1)] noon (run 2) [] r _ rfl hsecond).2.1 hundisturbed⟩

end RunBoard

end RunWatch
