import RunWatch.Proofs.Ensemble.Alone
import RunWatch.Proofs.Text.Digits
import RunWatch.Proofs.Watch.Cycles

/-!
# The tests of the runs going on

A cycle that nothing overlaps, from any state of the watcher.  The reply to its page request decides everything that it
leaves behind; what is said about tests only decides which requests it still sends.  `testsAsked` lists these.
-/

namespace RunWatch.Watch.Watcher

open Api (Client Reply Request)

/-! ## The requests about tests -/

/-- The request for the first so many tests of a run. -/
def testsOf (client : Client) (project : Uuid) (count : Nat) (r : Run) : Request :=
  ⟨.get, client.root ++ "/projects/" ++ project.text ++ "/tests",
    [("page", "1"), ("count", toString count), ("run_id", r.id.text)], none⟩

/-- The requests about the tests of some runs when some replies come: for one run after the other a probe, and, if that
tells of tests that fit on a page, one request for all of them. -/
def testsAsked (client : Client) (project : Uuid) : List Run → List Reply → List Request
  | [], _ => []
  | r :: _, [] => [testsOf client project 0 r]
  | r :: rs, first :: replies =>
    match first.left? TestOutcome with
    | none => testsOf client project 0 r :: testsAsked client project rs replies
    | some count =>
      testsOf client project 0 r :: testsOf client project count r ::
        match replies with
        | [] => []
        | _ :: replies => testsAsked client project rs replies

theorem finding_testsRequest (client : Client) (project : Uuid) (r : Run) (count : Nat) :
    client.tests.finding (testsRequest project r) count = testsOf client project count r := by
  have hurl : client.tests.route.collectionUrl client.tests.root (some project) =
      client.root ++ "/projects/" ++ project.text ++ "/tests" := by
    have hprojects : "/projects/" = "/" ++ "projects" ++ "/" := rfl
    have htests : "/tests" = "/" ++ "tests" := rfl
    rw [hprojects, htests]
    change client.root ++ "/" ++ "projects" ++ "/" ++ project.text ++ "/" ++ "tests" = _
    simp only [String.append_assoc]
  rw [Api.Endpoint.finding, testsOf, ← hurl]
  rfl

/-- A survey begins with the probe for the first run. -/
theorem survey_cons {α : Type} (client : Client) (project : Uuid) (r : Run) (runs : List Run)
    (f : Unit → Activity Watcher α) :
    (survey client project (r :: runs)).bind f = .asking (testsOf client project 0 r) fun first =>
      (Activity.ofDialogue (client.tests.onProbe (testsRequest project r) first)).bind fun answer =>
        (Activity.report (testsReport r answer)).bind fun _ => (survey client project runs).bind f := by
  change (((Activity.ofDialogue (client.tests.findAll _)).bind _).bind _).bind f = _
  rw [Activity.bind_assoc, Activity.bind_assoc, Api.Endpoint.findAll_eq, finding_testsRequest]
  rfl

/-- A survey sends these requests and no others. -/
theorem asked_survey {α : Type} (client : Client) (project : Uuid) (runs : List Run) {f : Unit → Activity Watcher α}
    (hf : ∀ w replies, (f ()).asked w replies = []) (w : Watcher) (replies : List Reply) :
    ((survey client project runs).bind f).asked w replies = testsAsked client project runs replies := by
  -- The reply to a probe decides whether its run takes one reply or two, and the other runs have what is left.
  fun_induction testsAsked client project runs replies with
  | case1 replies => exact hf w replies
  | case2 r runs =>
    rw [survey_cons]
    rfl
  | case3 r runs first replies hleft ih =>
    obtain ⟨answer, hanswer⟩ := client.tests.onProbe_of_left?_eq_none (testsRequest project r) hleft
    rw [survey_cons, Activity.asked, hanswer]
    exact congrArg _ ((Activity.asked_report _ _ w replies).trans ih)
  | case4 r runs first replies count hleft ih =>
    obtain ⟨-, hnext⟩ := client.tests.onProbe_of_left?_eq_some (testsRequest project r) hleft
    rw [survey_cons, Activity.asked, hnext, finding_testsRequest]
    cases replies with
    | nil => rfl
    | cons second replies => exact congrArg (_ :: _ :: ·) ((Activity.asked_report _ _ w replies).trans (ih replies))

theorem length_testsAsked_le (client : Client) (project : Uuid) (runs : List Run) (replies : List Reply) :
    (testsAsked client project runs replies).length ≤ 2 * runs.length := by
  fun_induction testsAsked client project runs replies with
  | case1 replies => exact Nat.le_refl 0
  | case2 r runs =>
    simp only [List.length_cons, List.length_nil]
    omega
  | case3 r runs first replies hleft ih =>
    simp only [List.length_cons]
    omega
  | case4 r runs first replies count hleft ih =>
    cases replies with
    | nil =>
      simp only [List.length_cons, List.length_nil]
      omega
    | cons second replies =>
      have hrest := ih replies
      simp only [List.length_cons]
      omega

/-- A request that asks how much there is to fetch, and for nothing of it. -/
def isProbe (q : Request) : Bool :=
  q.queryValue? "count" = some "0"

theorem isProbe_testsOf {client : Client} {project : Uuid} {r : Run} {count : Nat} :
    isProbe (testsOf client project count r) = true ↔ count = 0 := by
  have hvalue : (testsOf client project count r).queryValue? "count" = some (toString count) := rfl
  rw [isProbe, hvalue, decide_eq_true_eq, Option.some.injEq]
  refine ⟨fun h => Nat.eq_zero_of_not_pos fun hcount => Text.toString_ne_zero hcount h, ?_⟩
  rintro rfl
  rfl

/-- When every request has had its reply, the probes among them are those for all the runs. -/
theorem probes_testsAsked {client : Client} {project : Uuid} {runs : List Run} {replies : List Reply}
    (h : (testsAsked client project runs replies).length ≤ replies.length) :
    (testsAsked client project runs replies).filter isProbe = runs.map (testsOf client project 0) := by
  fun_induction testsAsked client project runs replies with
  | case1 replies => rfl
  | case2 r runs => exact absurd h (Nat.not_succ_le_zero 0)
  | case3 r runs first replies hleft ih =>
    simp only [List.length_cons] at h
    rw [List.filter_cons_of_pos (isProbe_testsOf.mpr rfl), ih (by omega), List.map_cons]
  | case4 r runs first replies count hleft ih =>
    have hcount := (client.tests.onProbe_of_left?_eq_some (testsRequest project r) hleft).1
    have hfetch : ¬isProbe (testsOf client project count r) = true :=
      fun hprobe => Nat.ne_of_gt hcount (isProbe_testsOf.mp hprobe)
    cases replies with
    | nil => simp at h
    | cons second replies =>
      simp only [List.length_cons] at h
      rw [List.filter_cons_of_pos (isProbe_testsOf.mpr rfl), List.filter_cons_of_neg hfetch, ih replies (by omega),
        List.map_cons]

/-! ## A cycle on its own -/

/-- The page that a cycle begins with: the last one of the board, or else the first one of the project. -/
def pageDue (w : Watcher) : PageRequest :=
  w.board.lastRequest.getD w.firstPage

theorem begin_issues (w : Watcher) :
    w.begin = ({ w with board := (w.board.issuePage w.pageDue).1 },
      ⟨w.board.lastRequest.isSome, (w.board.issuePage w.pageDue).2⟩) := by
  obtain ⟨client, project, pageSize, ⟨runs, tasks, graph, graphDesk, lastRequest⟩, known⟩ := w
  cases lastRequest with
  | none => rfl
  | some request => rfl

/-- After its look a cycle asks for the tests of the runs going on and for nothing else. -/
theorem asked_wrapUp (w : Watcher) (page : Page Run) (ts : List Transition) (w' : Watcher) (replies : List Reply) :
    (w.wrapUp ⟨page.items, ts⟩).asked w' replies = testsAsked w.client w.project (running page.items) replies := by
  change (((Activity.report _).bind fun _ => (survey w.client w.project (running page.items)).bind _).bind _).asked
    w' replies = _
  rw [Activity.bind_assoc, Activity.asked_report, Activity.bind_assoc]
  exact asked_survey w.client w.project (running page.items) (fun _ _ => rfl) w' replies

/-- The ticket of a page is good until something else happens. -/
theorem accepts_issuePage (b : RunBoard) (request : PageRequest) :
    (b.issuePage request).1.runs.accepts (b.issuePage request).2.ticket = true := by
  change b.runs.desk.list.1.isCurrent b.runs.desk.list.2 = true
  simp [TicketDesk.list, TicketDesk.isCurrent]

/-- How a cycle that has begun goes on when the first reply comes. -/
def afterPage (w : Watcher) (first : Reply) : Activity Watcher Outcome :=
  takeIn w.board.lastRequest.isSome (w.board.issuePage w.pageDue).2.ticket
    ((first.decode (Page.codec Run)).map (.gotPage · w.pageDue))

/-- A cycle begins with the page request that is due. -/
theorem cycle_asks (w : Watcher) :
    cycle.advance w = (w.begin.1, .awaiting (w.board.runs.endpoint.pageRequest w.pageDue) w.afterPage) := by
  rw [cycle_eq]
  change ((Activity.ofDialogue w.begin.2.flight.dialogue).bind
    (takeIn w.begin.2.again w.begin.2.flight.ticket)).advance w.begin.1 = _
  rw [begin_issues]
  rfl

/-! ## What happens to it -/

/-- A reply to a page request and replies about tests, as they happen to a cycle that nothing overlaps. -/
def cycleMoves (first : Reply) (tests : List Reply) : List Move :=
  .begin :: .reply 0 first :: .proceed 0 :: tests.map (.reply 0)

theorem occurrence_cycleMoves (first : Reply) (tests : List Reply) :
    (cycleMoves first tests).map Move.occurrence =
      .enters cycle :: .reaches 0 (.reply first) :: .reaches 0 .time :: Ensemble.toOnly tests :=
  congrArg (_ :: _ :: _ :: ·) List.map_map

/-- The first reply finds the cycle alone with its page request. -/
theorem play_first (w : Watcher) (first : Reply) (tests : List Reply) :
    let e : Ensemble Watcher Outcome :=
      ⟨((w.afterPage first).advance w.begin.1).1, [((w.afterPage first).advance w.begin.1).2]⟩
    w.play (cycleMoves first tests) = e.run (.reaches 0 .time :: Ensemble.toOnly tests) ∧
      w.requestsOf 0 (cycleMoves first tests) = w.board.runs.endpoint.pageRequest w.pageDue ::
        (((w.afterPage first).advance w.begin.1).2.request?.toList ++
          e.requestsOf 0 (.reaches 0 .time :: Ensemble.toOnly tests)) := by
  intro e
  have hon : (Party.awaiting (w.board.runs.endpoint.pageRequest w.pageDue) w.afterPage).onward? (.reply first) =
      some (w.afterPage first) := rfl
  obtain ⟨hstep, hasks⟩ := Ensemble.step_only (s := w.begin.1) hon
  have hentered : (Ensemble.alone w).step (.enters cycle) =
      ⟨w.begin.1, [.awaiting (w.board.runs.endpoint.pageRequest w.pageDue) w.afterPage]⟩ := by
    rw [Ensemble.step, Ensemble.alone, cycle_asks]
    rfl
  have hentry : (Ensemble.alone w).asks? 0 (.enters cycle) = some (w.board.runs.endpoint.pageRequest w.pageDue) := by
    rw [Ensemble.asks?, Ensemble.alone, cycle_asks]
    rfl
  rw [play, requestsOf, occurrence_cycleMoves, Ensemble.run_cons, hentered, Ensemble.run_cons, hstep,
    Ensemble.requestsOf, hentry, hentered, Ensemble.requestsOf, hasks, hstep]
  exact ⟨rfl, rfl⟩

/-- A cycle whose page has failed is over, and leaves the board with its runs. -/
theorem play_of_fault {w : Watcher} {first : Reply} {fault : Api.Fault}
    (h : first.decode (Page.codec Run) = .error fault) (tests : List Reply) :
    w.play (cycleMoves first tests) =
        ⟨w.begin.1, [.ended (.error ⟨w.board.lastRequest.isSome, .api fault⟩)]⟩ ∧
      w.requestsOf 0 (cycleMoves first tests) = [w.board.runs.endpoint.pageRequest w.pageDue] := by
  have hover : (w.afterPage first).advance w.begin.1 =
      (w.begin.1, .ended (.error ⟨w.board.lastRequest.isSome, .api fault⟩)) := by
    rw [afterPage, h]
    rfl
  obtain ⟨hplay, hrequests⟩ := w.play_first first tests
  obtain ⟨hstep, hasks, -⟩ := Ensemble.unmoved (i := 0)
    (e := ⟨w.begin.1, [.ended (.error ⟨w.board.lastRequest.isSome, .api fault⟩)]⟩) rfl
    (onward?_ended (.error ⟨w.board.lastRequest.isSome, .api fault⟩) .time)
  obtain ⟨hrun, hnone⟩ := Ensemble.run_toOnly_of_idle (s := w.begin.1)
    (p := .ended (.error ⟨w.board.lastRequest.isSome, .api fault⟩ : Outcome)) (fun _ => rfl) tests
  rw [hplay, hrequests, hover, Ensemble.run_cons, Ensemble.requestsOf, hstep, hasks, hrun, hnone]
  exact ⟨rfl, rfl⟩

/-- A cycle whose page has come puts it on the board, takes in the statuses and goes on to the tests. -/
theorem play_of_page {w : Watcher} {first : Reply} {page : Page Run}
    (h : first.decode (Page.codec Run) = .ok page) :
    ∃ looked : Watcher, looked.known = (transitions w.known page.items).1 ∧
      looked.board.runs.listing.items = page.items ∧
      ∀ tests, w.play (cycleMoves first tests) =
          ⟨((w.wrapUp ⟨page.items, (transitions w.known page.items).2⟩).played looked tests).1,
            [((w.wrapUp ⟨page.items, (transitions w.known page.items).2⟩).played looked tests).2]⟩ ∧
        w.requestsOf 0 (cycleMoves first tests) = w.board.runs.endpoint.pageRequest w.pageDue ::
          testsAsked w.client w.project (running page.items) tests := by
  have hbegin : w.begin.1 = { w with board := (w.board.issuePage w.pageDue).1 } := congrArg Prod.fst w.begin_issues
  have haccepts : w.begin.1.board.runs.accepts (w.board.issuePage w.pageDue).2.ticket = true :=
    hbegin ▸ accepts_issuePage w.board w.pageDue
  let landed : Watcher := { w.begin.1 with
    board := { w.begin.1.board with runs := w.begin.1.board.runs.dispatch (.gotPage page w.pageDue) } }
  let looked : Watcher := { landed with known := (transitions w.known page.items).1 }
  have hland : (w.afterPage first).advance w.begin.1 = (landed, .resting (rest true)) := by
    rw [afterPage, h]
    change ((w.begin.1.settle _ (.gotPage page w.pageDue)).1,
      Party.resting (rest (w.begin.1.settle _ (.gotPage page w.pageDue)).2)) = _
    rw [settle_of_accepts haccepts]
  have hlook : (rest true).advance landed =
      (w.wrapUp ⟨page.items, (transitions w.known page.items).2⟩).advance looked := by
    have hview : landed.look = (looked, ⟨page.items, (transitions w.known page.items).2⟩) := by
      simp only [landed, looked, hbegin]
      rfl
    rw [rest_true, Activity.advance, hview]
    simp only [landed, hbegin]
    rfl
  refine ⟨looked, rfl, rfl, fun tests => ?_⟩
  obtain ⟨hplay, hrequests⟩ := w.play_first first tests
  have hon : (Party.resting (rest true) : Party Watcher Outcome).onward? .time = some (rest true) := rfl
  obtain ⟨hstep, hasks⟩ := Ensemble.step_only (s := landed) hon
  obtain ⟨hrun, hasked⟩ :=
    Ensemble.run_toOnly (w.wrapUp ⟨page.items, (transitions w.known page.items).2⟩) looked tests
  rw [hplay, hrequests, hland, Ensemble.run_cons, Ensemble.requestsOf, hstep, hasks, hlook, hrun, hasked, asked_wrapUp]
  exact ⟨rfl, rfl⟩

/-! ## Main statement -/

/-- Nothing that is said about tests makes a difference to what a cycle that nothing overlaps leaves behind or comes to.
It sends the page request that is due; if that fails, so does the cycle, with nothing changed in the runs at hand and
the statuses known.  If a page comes, the cycle does not fail: it takes the page in, sends for each of its runs that is
going on, in their order, a probe for its tests and at most one request more, and then reports the overview of the page
and how its runs have moved. -/
theorem outcome_untouched_by_tests (w : Watcher) (first : Reply) (tests tests' : List Reply) :
    let e := w.play (cycleMoves first tests)
    let e' := w.play (cycleMoves first tests')
    let asked := w.requestsOf 0 (cycleMoves first tests)
    (e.state = e'.state ∧ ∀ o o', e.parties = [.ended o] → e'.parties = [.ended o'] → o = o') ∧
    asked.head? = some (w.board.runs.endpoint.pageRequest (w.board.lastRequest.getD w.firstPage)) ∧
    (∀ fault, first.decode (Page.codec Run) = .error fault →
      e.parties = [.ended (.error ⟨w.board.lastRequest.isSome, .api fault⟩)] ∧ asked.tail = [] ∧
      e.state.known = w.known ∧ e.state.board.runs.listing = w.board.runs.listing) ∧
    ∀ page, first.decode (Page.codec Run) = .ok page →
      let going := page.items.filter fun r => r.status = .running
      let moved := transitions w.known page.items
      e.state.known = moved.1 ∧ e.state.board.runs.listing.items = page.items ∧
      asked.tail = testsAsked w.client w.project going tests ∧
      (asked.tail.length ≤ tests.length → asked.tail.filter isProbe = going.map (testsOf w.client w.project 0)) ∧
      asked.tail.length ≤ 2 * going.length ∧
      ((∃ o, e.parties = [.ended o]) ↔ asked.tail.length ≤ tests.length) ∧
      ∀ o, e.parties = [.ended o] → o = .ok ⟨.ofRuns page.items, moved.2⟩ := by
  intro e e' asked
  simp only [e, e', asked]
  cases hfirst : first.decode (Page.codec Run) with
  | error fault =>
    obtain ⟨hplay, hsent⟩ := play_of_fault (w := w) hfirst tests
    obtain ⟨hplay', -⟩ := play_of_fault (w := w) hfirst tests'
    rw [hsent, hplay, hplay']
    simp only [List.cons.injEq, and_true]
    refine ⟨⟨trivial, fun o o' ho ho' => Party.ended.inj (ho.symm.trans ho')⟩, rfl, fun fault' h => ?_, nofun⟩
    obtain rfl := Except.error.inj h
    rw [begin_issues]
    exact ⟨rfl, rfl, rfl, rfl⟩
  | ok page =>
    -- Both runs go on from the same watcher, and what they go on with only waits for replies.
    obtain ⟨looked, hknown, hitems, hlooked⟩ := play_of_page (w := w) hfirst
    obtain ⟨hplay, hsent⟩ := hlooked tests
    obtain ⟨hplay', -⟩ := hlooked tests'
    have hends := w.wrapUp_ends page (transitions w.known page.items).2
    obtain ⟨hstate, hresult, hover⟩ := hends.played looked tests
    obtain ⟨hstate', hresult', -⟩ := hends.played looked tests'
    rw [hsent, hplay, hplay', hstate, hstate']
    simp only [List.cons.injEq, and_true]
    refine ⟨⟨trivial, fun o o' ho ho' => (hresult o ho).trans (hresult' o' ho').symm⟩, rfl, nofun, fun page' h => ?_⟩
    obtain rfl := Except.ok.inj h
    refine ⟨hknown, hitems, rfl, probes_testsAsked, length_testsAsked_le .., hover.trans ?_, hresult⟩
    rw [asked_wrapUp]
    rfl

/-- A run is going on whose tests cannot be counted, or are counted but cannot be fetched. -/
theorem running_run_reported_without_tests :
    let client : Client := ⟨"http://api.test"⟩
    let id (d : Fin 16) : Uuid := ⟨List.replicate 32 d, rfl⟩
    let run : Run := ⟨id 1, "load", none, ⟨id 2, none, none, none⟩, .running, none, none, [], [], []⟩
    let first : Reply := .response ⟨200,
      "\x7b\"entities\":[\x7b\"id\":\"11111111-1111-1111-1111-111111111111\",\"key\":\"load\"," ++
      "\"status\":\"RUNNING\",\"pipeline\":\x7b\"id\":\"22222222-2222-2222-2222-222222222222\"\x7d\x7d]," ++
      "\"total\":1\x7d"⟩
    let counted : Reply := .response ⟨200, "\x7b\"entities\":[],\"total\":2\x7d"⟩
    let refused : Reply := .response ⟨500, ""⟩
    let asking (count : String) : Request :=
      ⟨.get, "http://api.test/projects/33333333-3333-3333-3333-333333333333/tests",
        [("page", "1"), ("count", count), ("run_id", "11111111-1111-1111-1111-111111111111")], none⟩
    let w := new client (id 3) 10
    let report : Report := ⟨.ofRuns [run], [⟨id 1, "load", none, .running⟩]⟩
    (w.requestsOf 0 (cycleMoves first [refused])).tail = [asking "0"] ∧
      (w.requestsOf 0 (cycleMoves first [counted, refused])).tail = [asking "0", asking "2"] ∧
      (w.play (cycleMoves first [refused])).parties = [.ended (.ok report)] ∧
      (w.play (cycleMoves first [counted, refused])).parties = [.ended (.ok report)] ∧
      (w.play (cycleMoves first [refused])).state = (w.play (cycleMoves first [counted, refused])).state := by
  intro client id run first counted refused asking w report
  have hfirst : first.decode (Page.codec Run) = .ok ⟨[run], 1⟩ := by decide +kernel
  have hrefused : testsAsked client (id 3) [run] [refused] = [asking "0"] := by decide +kernel
  have hcounted : testsAsked client (id 3) [run] [counted, refused] = [asking "0", asking "2"] := by decide +kernel
  have hmoved : (transitions [] [run]).2 = [⟨id 1, "load", none, .running⟩] := by decide +kernel
  have hover (tests : List Reply) (asked : List Request) (hasked : testsAsked client (id 3) [run] tests = asked)
      (henough : asked.length ≤ tests.length) : (w.requestsOf 0 (cycleMoves first tests)).tail = asked ∧
        (w.play (cycleMoves first tests)).parties = [.ended (.ok report)] := by
    obtain ⟨-, -, -, hpage⟩ := outcome_untouched_by_tests w first tests tests
    obtain ⟨-, -, hsent, -, -, hended, hresult⟩ := hpage _ hfirst
    have htail := hsent.trans hasked
    obtain ⟨o, ho⟩ := hended.mpr (htail ▸ henough)
    refine ⟨htail, ho.trans ?_⟩
    rw [hresult o ho]
    exact congrArg (fun ts => [Party.ended (found ⟨[run], 1⟩ ts)]) hmoved
  obtain ⟨hsent, hended⟩ := hover [refused] _ hrefused (Nat.le_refl 1)
  obtain ⟨hsent', hended'⟩ := hover [counted, refused] _ hcounted (Nat.le_refl 2)
  exact ⟨hsent, hsent', hended, hended', (outcome_untouched_by_tests w first [refused] [counted, refused]).1.1⟩

end RunWatch.Watch.Watcher
