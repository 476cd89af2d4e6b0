import RunWatch.Proofs.Api.Finding
import RunWatch.Proofs.Cache.Overlap
import RunWatch.Proofs.Ensemble.Ending
import RunWatch.Watch.Watcher

/-!
# The stages of a cycle

What a cycle does from one wait to the next.  It begins by asking for the page (`cycle_advance`); the reply ends it, or
puts the page on the board, or finds it superseded (`onPage`); after the pause it looks at the board or is over (`rest`);
and after the look it only waits for replies about tests (`wrapUp_ends`).

All of this depends on the other cycles only through what `Standing` says of the watcher, and on the page that is on the
board when the cycle looks.
-/

namespace RunWatch.Watch

namespace Watcher

/-- What a cycle comes to. -/
abbrev Outcome := Except CycleFault Report

/-! ## What the cycles share -/

/-- What all cycles leave as it is: where the watcher looks, the desk that has counted the cycles, and the
page that is fetched again and again. -/
structure Standing (w₀ w : Watcher) (begun : Nat) : Prop where
  client : w.client = w₀.client
  project : w.project = w₀.project
  pageSize : w.pageSize = w₀.pageSize
  endpoint : w.board.runs.endpoint = w₀.client.runs
  desk : w.board.runs.desk = ⟨0, begun⟩
  lastRequest : w.board.lastRequest = if begun = 0 then none else some w₀.firstPage

theorem standing_new (client : Api.Client) (project : Uuid) (pageSize : UInt32) :
    Standing (new client project pageSize) (new client project pageSize) 0 :=
  ⟨rfl, rfl, rfl, rfl, rfl, rfl⟩

/-! ## From the request to the pause -/

/-- How a cycle goes on to its result from the pause after its page. -/
def rest (applied : Bool) : Activity Watcher Outcome :=
  (goOn applied).bind fun report => .finished (.ok report)

/-- What a cycle does when the answer to its page request is there. -/
def takeIn (again : Bool) (ticket : Ticket) : Except Api.Fault (Change Run) → Activity Watcher Outcome
  | .error fault => .finished (.error ⟨again, .api fault⟩)
  | .ok change =>
    .touching (fun w => (w.settle ticket change).1) fun w => .pausing 0 (rest (w.settle ticket change).2)

/-- How a cycle goes on from the reply to its page request. -/
def onPage (w : Watcher) (i : Nat) (reply : Api.Reply) : Activity Watcher Outcome :=
  takeIn (decide (0 < i)) ⟨0, some (i + 1)⟩ ((reply.decode (Page.codec Run)).map (.gotPage · w.firstPage))

/-- The request for the page that every cycle fetches. -/
def pageAsked (w : Watcher) : Api.Request :=
  w.client.runs.pageRequest w.firstPage

theorem onward?_waiting (w : Watcher) (i : Nat) (r : Api.Reply) :
    (Party.awaiting w.pageAsked (w.onPage i)).onward? (.reply r) = some (w.onPage i r) := rfl

theorem cycle_eq : cycle = (Activity.transact begin).bind fun page =>
    (Activity.ofDialogue page.flight.dialogue).bind (takeIn page.again page.flight.ticket) := by
  refine congrArg (Activity.bind · (Activity.transact begin)) (funext fun page => ?_)
  refine congrArg (Activity.bind · (Activity.ofDialogue page.flight.dialogue)) (funext fun answer => ?_)
  cases answer with
  | error fault => rfl
  | ok change => rfl

theorem begin_eq {w₀ w : Watcher} {n : Nat} (h : Standing w₀ w n) :
    ∃ w', Standing w₀ w' (n + 1) ∧ w'.known = w.known ∧ w'.board.runs.listing = w.board.runs.listing ∧ w.begin =
      (w', ⟨decide (0 < n), ⟨⟨0, some (n + 1)⟩, (Effect.loadPage w₀.firstPage).call w₀.client.runs⟩⟩) := by
  obtain ⟨client, project, pageSize, board, known⟩ := w
  obtain ⟨⟨endpoint, initial, state, desk⟩, tasks, graph, graphDesk, request⟩ := board
  obtain ⟨hclient, hproject, hsize, hendpoint, hdesk, hrequest⟩ := h
  simp only at hclient hproject hsize hendpoint hdesk hrequest
  subst hclient hproject hsize hendpoint hdesk hrequest
  let board : RunBoard :=
    ⟨⟨w₀.client.runs, initial, state, ⟨0, n + 1⟩⟩, tasks, graph, graphDesk, some w₀.firstPage⟩
  refine ⟨⟨w₀.client, w₀.project, w₀.pageSize, board, known⟩, ⟨rfl, rfl, rfl, rfl, rfl, rfl⟩, rfl, rfl, ?_⟩
  -- The first cycle asks for the first page, and every other one for the last page once more.
  cases n with
  | zero => rfl
  | succ n => rfl

/-- A cycle that begins asks for the page and waits. -/
theorem cycle_advance {w₀ w : Watcher} {n : Nat} (h : Standing w₀ w n) :
    ∃ w', Standing w₀ w' (n + 1) ∧ w'.known = w.known ∧ w'.board.runs.listing = w.board.runs.listing ∧
      cycle.advance w = (w', .awaiting w₀.pageAsked (w₀.onPage n)) := by
  obtain ⟨w', hstanding, hknown, hlisting, hbegin⟩ := begin_eq h
  refine ⟨w', hstanding, hknown, hlisting, ?_⟩
  rw [cycle_eq]
  change ((Activity.ofDialogue w.begin.2.flight.dialogue).bind
    (takeIn w.begin.2.again w.begin.2.flight.ticket)).advance w.begin.1 = _
  rw [hbegin]
  rfl

theorem Standing.accepts_iff {w₀ w : Watcher} {n : Nat} (h : Standing w₀ w n) (i : Nat) :
    w.board.runs.accepts ⟨0, some (i + 1)⟩ = true ↔ i + 1 = n := by
  rw [Cache.accepts, TicketDesk.isCurrent, h.desk]
  simp

/-- A cycle whose page request has failed is over. -/
theorem onPage_failed {w₀ : Watcher} {i : Nat} {reply : Api.Reply} {fault : Api.Fault}
    (hreply : reply.decode (Page.codec Run) = .error fault) (w : Watcher) :
    (w₀.onPage i reply).advance w = (w, .ended (.error ⟨decide (0 < i), .api fault⟩)) := by
  rw [onPage, hreply]
  rfl

theorem onPage_ok_advance {w₀ : Watcher} {i : Nat} {reply : Api.Reply} {page : Page Run}
    (hreply : reply.decode (Page.codec Run) = .ok page) (w : Watcher) :
    (w₀.onPage i reply).advance w =
      ((w.settle ⟨0, some (i + 1)⟩ (.gotPage page w₀.firstPage)).1,
        .resting (rest (w.settle ⟨0, some (i + 1)⟩ (.gotPage page w₀.firstPage)).2)) := by
  rw [onPage, hreply]
  rfl

/-- One whose page comes when another cycle has begun leaves the watcher alone. -/
theorem onPage_superseded {w₀ w : Watcher} {n i : Nat} (h : Standing w₀ w n) (hi : i + 1 ≠ n)
    {reply : Api.Reply} {page : Page Run} (hreply : reply.decode (Page.codec Run) = .ok page) :
    (w₀.onPage i reply).advance w = (w, .resting (rest false)) := by
  have hrefused : ¬w.board.runs.accepts ⟨0, some (i + 1)⟩ = true := mt (h.accepts_iff i).mp hi
  have hruns : w.board.runs.settle ⟨0, some (i + 1)⟩ (.gotPage page w₀.firstPage) = w.board.runs := if_neg hrefused
  rw [onPage_ok_advance hreply, settle, RunBoard.settle, hruns, Bool.eq_false_of_not_eq_true hrefused]

/-- A page whose ticket is good is put on the board. -/
theorem settle_of_accepts {w : Watcher} {ticket : Ticket} (h : w.board.runs.accepts ticket = true) (page : Page Run)
    (request : PageRequest) :
    w.settle ticket (.gotPage page request) =
      ({ w with board := { w.board with runs := w.board.runs.dispatch (.gotPage page request) } }, true) := by
  have hruns : w.board.runs.settle ticket (.gotPage page request) = w.board.runs.dispatch (.gotPage page request) :=
    if_pos h
  rw [settle, RunBoard.settle, hruns, h]

/-- A cycle whose page comes in time puts it on the board. -/
theorem onPage_landed {w₀ w : Watcher} {n i : Nat} (h : Standing w₀ w n) (hi : i + 1 = n)
    {reply : Api.Reply} {page : Page Run} (hreply : reply.decode (Page.codec Run) = .ok page) :
    ∃ w', (w₀.onPage i reply).advance w = (w', .resting (rest true)) ∧ Standing w₀ w' n ∧ w'.known = w.known ∧
      w'.board.runs.listing.items = page.items := by
  rw [onPage_ok_advance hreply, settle_of_accepts ((h.accepts_iff i).mpr hi)]
  exact ⟨_, rfl, ⟨h.client, h.project, h.pageSize, h.endpoint, h.desk, h.lastRequest⟩, rfl, rfl⟩

/-! ## After the pause -/

/-- What a cycle does after its look. -/
def wrapUp (w : Watcher) (view : View) : Activity Watcher Outcome :=
  (conclude w.client w.project view).bind fun report => .finished (.ok report)

theorem rest_true : rest true = .touching (fun w => w.look.1) fun w => w.wrapUp w.look.2 := rfl

/-- A superseded cycle is over when it goes on. -/
theorem rest_false_advance (w : Watcher) : (rest false).advance w = (w, .ended (.ok ⟨w.board.overview, []⟩)) := rfl

/-- Everything is found with two requests at most. -/
theorem findAll_ends {S R : Type} [Record R] (endpoint : Api.Endpoint R) (request : FindRequest) :
    (Activity.ofDialogue (endpoint.findAll request) : Activity S (Except Api.Fault (Page R))).EndsWithin
      (fun _ => True) 2 := by
  rw [endpoint.findAll_eq]
  refine .asking fun first => ?_
  cases hleft : first.left? R with
  | none =>
    obtain ⟨answer, hanswer⟩ := endpoint.onProbe_of_left?_eq_none request hleft
    rw [hanswer]
    exact .finished trivial
  | some count =>
    rw [(endpoint.onProbe_of_left?_eq_some request hleft).2]
    exact .asking fun _ => .finished trivial

/-- The tests of a run are asked for with two requests at most. -/
theorem surveyRun_ends (client : Api.Client) (project : Uuid) (r : Run) :
    (surveyRun client project r).EndsWithin (fun _ => True) 2 :=
  (findAll_ends client.tests (testsRequest project r)).bind (m := 0) fun answer _ => .report (testsReport r answer)

theorem survey_ends (client : Api.Client) (project : Uuid) (runs : List Run) :
    (survey client project runs).EndsWithin (fun _ => True) (2 * runs.length) := by
  induction runs with
  | nil => exact .finished trivial
  | cons r runs ih =>
    rw [List.length_cons, Nat.mul_add, Nat.add_comm]
    exact (surveyRun_ends client project r).bind fun _ _ => ih

/-- A cycle that has looked reports as soon as it has asked for the tests of the runs going on. -/
theorem conclude_ends (client : Api.Client) (project : Uuid) (view : View) :
    (conclude client project view).EndsWithin (· = ⟨.ofRuns view.runs, view.transitions⟩)
      (2 * (running view.runs).length) := by
  have hsurvey := survey_ends client project (running view.runs)
  have hoverview : (((Activity.report [overviewReport project (.ofRuns view.runs)]).bind fun _ =>
      .finished ⟨.ofRuns view.runs, view.transitions⟩ : Activity Watcher Report)).EndsWithin
        (· = ⟨.ofRuns view.runs, view.transitions⟩) 0 :=
    .noting (.finished rfl)
  have hreport := Activity.EndsWithin.report (S := Watcher) (n := 0) (view.transitions.flatMap Transition.report)
  have hall := hreport.bind fun _ _ => hsurvey.bind fun _ _ => hoverview
  rw [Nat.zero_add] at hall
  exact hall

/-- What a cycle comes to that has found a page on the board, and some transitions on the page. -/
def found (page : Page Run) (ts : List Transition) : Outcome :=
  .ok ⟨.ofRuns page.items, ts⟩

theorem wrapUp_ends (w : Watcher) (page : Page Run) (ts : List Transition) :
    (w.wrapUp ⟨page.items, ts⟩).EndsWithin (· = found page ts) (2 * (running page.items).length) :=
  (conclude_ends w.client w.project ⟨page.items, ts⟩).bind (m := 0) (Q := (· = found page ts))
    (f := fun report => .finished (.ok report)) fun _ hreport => .finished (congrArg Except.ok hreport)

/-- A cycle that goes on after its page has landed takes the statuses of the page on the board in, and goes on to report
the transitions. -/
theorem rest_true_advance {w : Watcher} {page : Page Run} (hboard : w.board.runs.listing.items = page.items) :
    ∃ p, (rest true).advance w = ({ w with known := (transitions w.known page.items).1 }, p) ∧
      p.EndsWithin (· = found page (transitions w.known page.items).2) (2 * (running page.items).length) := by
  have hlook : w.look = ({ w with known := (transitions w.known page.items).1 },
      ⟨page.items, (transitions w.known page.items).2⟩) := by
    rw [look, hboard]
  rw [rest_true, Activity.advance, hlook]
  obtain ⟨hstate, hparty⟩ := (wrapUp_ends w page (transitions w.known page.items).2).advance
    { w with known := (transitions w.known page.items).1 }
  exact ⟨_, Prod.ext hstate rfl, hparty⟩

end Watcher

end RunWatch.Watch
