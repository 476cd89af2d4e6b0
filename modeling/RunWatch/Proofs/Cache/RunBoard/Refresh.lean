import RunWatch.Proofs.Cache.RunBoard.Renewal
import RunWatch.Proofs.Ensemble.Conversation
import RunWatch.Proofs.Ensemble.Ending

/-!
# The page that is fetched again

A board remembers the request of the page that was asked for last, until a reset (`lastPage?`).  It does so when the
page is asked for and at no other time: whatever effects are in flight and whatever comes of them, their changes leave
the request alone (`Recalls`).  So a refresh finds what the history says (`remembers_play`).
-/

namespace RunWatch.RunBoard

/-! ## The request remembered -/

/-- What a move leaves of the request remembered. -/
def Move.remember (last : Option PageRequest) : Move → Option PageRequest
  | page request => some request
  | reset => none
  | _ => last

/-- The request of the page asked for last since the last reset. -/
def lastPage? (moves : List Move) : Option PageRequest :=
  moves.foldl Move.remember none

theorem lastPage?_concat (moves : List Move) (m : Move) : lastPage? (moves ++ [m]) = m.remember (lastPage? moves) :=
  List.foldl_append

/-- Moves that neither ask for a page nor reset the board leave the request alone. -/
theorem lastPage?_append {before later : List Move} (h : ∀ m ∈ later, m ≠ .reset ∧ ∀ request, m ≠ .page request) :
    lastPage? (before ++ later) = lastPage? before := by
  induction later using List.reverseRecOn with
  | nil => rw [List.append_nil]
  | append_singleton later m ih =>
    obtain ⟨hreset, hpage⟩ := h m (List.mem_append_right later List.mem_cons_self)
    rw [← List.append_assoc, lastPage?_concat, ih fun m' hm' => h m' (List.mem_append_left [m] hm')]
    cases m with
    | page request => exact absurd rfl (hpage request)
    | reset => exact absurd rfl hreset
    | _ => rfl

theorem lastPage?_ne_none {before later : List Move} {request : PageRequest} (h : .reset ∉ later) :
    lastPage? (before ++ .page request :: later) ≠ none := by
  induction later using List.reverseRecOn with
  | nil => simp [lastPage?_concat, Move.remember]
  | append_singleton later m ih =>
    rw [List.mem_append, List.mem_singleton, not_or] at h
    have hlater := ih h.1
    rw [← List.cons_append, ← List.append_assoc, lastPage?_concat]
    cases m with
    | page request' => exact Option.some_ne_none request'
    | reset => exact absurd rfl h.2
    | _ => exact hlater

/-- Nothing is remembered exactly if every page asked for was followed by a reset. -/
theorem lastPage?_eq_none {moves : List Move} :
    lastPage? moves = none ↔ ∀ before request later, moves = before ++ .page request :: later → .reset ∈ later := by
  constructor
  · rintro h before request later rfl
    exact not_not.mp fun hreset => lastPage?_ne_none hreset h
  · intro h
    induction moves using List.reverseRecOn with
    | nil => rfl
    | append_singleton moves m ih =>
      -- Unless it is the last move itself, the reset behind a page was there before.
      have hmoves (hm : m ≠ .reset) : lastPage? moves = none := by
        refine ih fun before request later hsplit => ?_
        have hreset := h before request (later ++ [m]) (by rw [hsplit, List.append_assoc, List.cons_append])
        exact (List.mem_append.mp hreset).resolve_right fun hlast => hm (List.mem_singleton.mp hlast).symm
      rw [lastPage?_concat]
      cases m with
      | page request => exact absurd (h moves request [] rfl) List.not_mem_nil
      | reset => rfl
      | _ => exact hmoves nofun

/-! ## Changes that leave it alone -/

/-- A change that leaves the request alone. -/
def Recalls (change : RunBoard → RunBoard) : Prop :=
  ∀ b, (change b).lastRequest = b.lastRequest

theorem recalls_onRuns {α : Type} (a : Activity (Cache Run) α) : (onRuns a).Each Recalls :=
  (Activity.each_true a).within fun _ _ _ => rfl

theorem recalls_settleGraph (t : Ticket) (graph : TaskGraph) : Recalls fun b => b.settleGraph t graph := by
  intro b
  simp only [settleGraph]
  split <;> rfl

theorem recalls_completeRefresh (flight : Option (Flight Run)) : (completeRefresh flight).Each Recalls := by
  cases flight with
  | none => trivial
  | some flight => exact (recalls_onRuns _).bind fun _ => trivial

theorem recalls_startRefresh : Recalls fun b => b.startRefresh.1 := by
  intro b
  cases h : b.lastRequest with
  | none => exact (congrArg (·.1.lastRequest) (startRefresh_none h)).trans h
  | some request => exact (congrArg (·.1.lastRequest) (startRefresh_some h)).trans h

/-- Only a page that is asked for and a reset make a difference to the request. -/
theorem Move.makes_recalls {m : Move} (h : m ≠ .reset ∧ ∀ request, m ≠ .page request) : m.occurrence.Makes Recalls := by
  cases m with
  | issue effect => exact each_tagged (recalls_onRuns _)
  | page request => exact absurd rfl (h.2 request)
  | refresh =>
    rw [occurrence, performRefresh_eq]
    exact each_tagged ⟨recalls_startRefresh, fun b => recalls_completeRefresh _⟩
  | graph now run => exact each_tagged ⟨fun b => rfl, fun b => each_completeGraph now (recalls_settleGraph _)⟩
  | reply i r => trivial
  | dispatch change => exact fun b => rfl
  | resetRuns => exact fun b => rfl
  | reset => exact absurd rfl h.1

/-- The board remembers the request of the page asked for last, and no effect in flight will change that. -/
structure Remembers (e : Ensemble RunBoard Outcome) (last : Option PageRequest) : Prop where
  state : e.state.lastRequest = last
  parties : ∀ p ∈ e.parties, p.Continues (Activity.Each Recalls)

theorem keeps_last {last : Option PageRequest} (change : RunBoard → RunBoard) (h : Recalls change) (b : RunBoard)
    (hb : b.lastRequest = last) : (change b).lastRequest = last :=
  (h b).trans hb

theorem Remembers.page {e : Ensemble RunBoard Outcome} {last : Option PageRequest} (h : Remembers e last)
    (request : PageRequest) : Remembers (e.step (Move.page request).occurrence) (some request) := by
  let flight := (e.state.issuePage request).2
  have hrest : (tagged .changed (onRuns (Cache.complete flight))).Each Recalls := each_tagged (recalls_onRuns _)
  refine ⟨hrest.advance keeps_last rfl, Ensemble.step_all (Activity.each_steady Recalls) h.parties _ fun a ha => ?_⟩
  obtain rfl := Occurrence.enters.inj ha
  exact Activity.each_steady Recalls _ hrest (e.state.issuePage request).1

theorem Remembers.step {e : Ensemble RunBoard Outcome} {last : Option PageRequest} (h : Remembers e last) (m : Move) :
    Remembers (e.step m.occurrence) (m.remember last) := by
  have hother (hm : m ≠ .reset ∧ ∀ request, m ≠ .page request) : Remembers (e.step m.occurrence) last :=
    ⟨Ensemble.keeps_step_of_makes keeps_last h.parties (Move.makes_recalls hm) h.state,
      Ensemble.each_step h.parties (Move.makes_recalls hm).brings⟩
  cases m with
  | page request => exact h.page request
  | reset => exact ⟨rfl, h.parties⟩
  | _ => exact hother ⟨nofun, nofun⟩

theorem remembers_play (client : Api.Client) (moves : List Move) :
    Remembers ((new client).play moves) (lastPage? moves) := by
  induction moves using List.reverseRecOn with
  | nil => exact ⟨rfl, fun _ hp => absurd hp List.not_mem_nil⟩
  | append_singleton moves m ih =>
    rw [play_concat, lastPage?_concat]
    exact ih.step m

/-! ## What is sent -/

/-- The requests that an effect sends over some moves. -/
def requestsOf (b : RunBoard) (i : Nat) (moves : List Move) : List Api.Request :=
  (Ensemble.alone b).requestsOf i (moves.map Move.occurrence)

/-- Before it is issued an effect has sent nothing. -/
theorem requestsOf_issued (b : RunBoard) (moves later : List Move) (m : Move) :
    b.requestsOf (issued moves) (moves ++ m :: later) =
      ((b.play moves).asks? (issued moves) m.occurrence).toList ++
        ((b.play moves).step m.occurrence).requestsOf (issued moves) (later.map Move.occurrence) := by
  have hbefore : (Ensemble.alone b).requestsOf (issued moves) (moves.map Move.occurrence) = [] :=
    Ensemble.requestsOf_of_length_le (Nat.le_of_eq (b.length_play moves))
  rw [requestsOf, List.map_append, Ensemble.requestsOf_append, hbefore]
  rfl

theorem play_append_cons (b : RunBoard) (moves later : List Move) (m : Move) :
    b.play (moves ++ m :: later) = ((b.play moves).step m.occurrence).run (later.map Move.occurrence) := by
  rw [play, List.map_append, Ensemble.run_append]
  rfl

theorem endpoint_play (client : Api.Client) (moves : List Move) :
    ((new client).play moves).state.runs.endpoint = client.runs :=
  ((new client).le_play moves).1.1

/-- A page in flight waits for one reply and is over with it. -/
theorem load_awaits (b : RunBoard) (request : PageRequest) (tag : Cache.Outcome Run → Outcome) :
    ∃ next : Api.Reply → Activity RunBoard Outcome, (∀ r, (next r).AtOnce fun o => ∃ x, o = tag x) ∧
      ∀ s, ((onRuns (Cache.complete (b.issue (.loadPage request)).2)).bind fun o => .finished (tag o)).advance s =
        (s, .awaiting (b.runs.endpoint.pageRequest request) next) := by
  let ticket := (b.issue (.loadPage request)).2.ticket
  let answered (r : Api.Reply) : Activity (Cache Run) (Cache.Outcome Run) :=
    Cache.complete ⟨ticket, .answer ((r.decode (Page.codec Run)).map (.gotPage · request))⟩
  have hanswered (r : Api.Reply) : (answered r).AtOnce fun _ => True := by
    change (Cache.complete ⟨ticket, .answer ((r.decode (Page.codec Run)).map _)⟩).AtOnce _
    cases r.decode (Page.codec Run) with
    | error fault => trivial
    | ok page => exact fun c => (Activity.atOnce_report _).bind fun _ _ => trivial
  refine ⟨fun r => (onRuns (answered r)).bind fun o => .finished (tag o), fun r => ?_, fun s => rfl⟩
  exact ((hanswered r).within _ _).bind fun o _ => ⟨o, rfl⟩

section

variable {b : RunBoard} {moves : List Move} {m : Move} {a : Activity RunBoard Outcome} {s : RunBoard}

/-- An effect that is over at once sends nothing. -/
theorem over_at_once (hm : m.occurrence = .enters a) {o : Outcome} (h : a.advance (b.play moves).state = (s, .ended o))
    (later : List Move) : b.requestsOf (issued moves) (moves ++ m :: later) = [] ∧
      (b.play (moves ++ m :: later)).parties[issued moves]? = some (.ended o) := by
  obtain ⟨-, hparty, hasks⟩ := Ensemble.entered (b.play moves) h
  rw [length_play] at hparty hasks
  rw [requestsOf_issued, play_append_cons, hm, hasks, Ensemble.requestsOf_of_ended hparty, Ensemble.run_ended hparty]
  exact ⟨rfl, rfl⟩

/-- An effect that waits for one reply sends one request. -/
theorem over_with_reply (hm : m.occurrence = .enters a) {request : Api.Request}
    {next : Api.Reply → Activity RunBoard Outcome} (h : a.advance (b.play moves).state = (s, .awaiting request next))
    {P : Outcome → Prop} (hnext : ∀ r, (next r).AtOnce P) (later : List Move) :
    b.requestsOf (issued moves) (moves ++ m :: later) = [request] ∧
      ∀ o, (b.play (moves ++ m :: later)).parties[issued moves]? = some (.ended o) → P o := by
  obtain ⟨-, hparty, hasks⟩ := Ensemble.entered (b.play moves) h
  rw [length_play] at hparty hasks
  obtain ⟨hsent, hresult⟩ := Ensemble.requestsOf_of_last hparty (fun r s => (hnext r).advance s)
    (later.map Move.occurrence)
  rw [requestsOf_issued, play_append_cons, hm, hasks, hsent]
  exact ⟨rfl, hresult⟩

end

/-- A page that is asked for is asked for with one request. -/
theorem page_sent (b : RunBoard) (moves later : List Move) (request : PageRequest) :
    b.requestsOf (issued moves) (moves ++ .page request :: later) =
      [(b.play moves).state.runs.endpoint.pageRequest request] := by
  let asking : RunBoard := { (b.play moves).state with lastRequest := some request }
  obtain ⟨next, hnext, hadvance⟩ := load_awaits asking request .changed
  exact (over_with_reply (m := .page request) rfl (hadvance _) hnext later).1

theorem refresh_advance (b : RunBoard) : (tagged .refreshed performRefresh).advance b =
    ((completeRefresh b.startRefresh.2).bind fun o => .finished (.refreshed o)).advance b.startRefresh.1 := rfl

theorem refresh_sent_none {b : RunBoard} {moves : List Move} (h : (b.play moves).state.lastRequest = none)
    (later : List Move) : b.requestsOf (issued moves) (moves ++ .refresh :: later) = [] ∧
      (b.play (moves ++ .refresh :: later)).parties[issued moves]? = some (.ended (.refreshed (.ok none))) := by
  have hadvance : (tagged .refreshed performRefresh).advance (b.play moves).state =
      ((b.play moves).state, .ended (.refreshed (.ok none))) := by
    rw [refresh_advance, startRefresh_none h]
    rfl
  exact over_at_once (m := .refresh) rfl hadvance later

theorem refresh_sent_some {b : RunBoard} {moves : List Move} {request : PageRequest}
    (h : (b.play moves).state.lastRequest = some request) (later : List Move) :
    b.requestsOf (issued moves) (moves ++ .refresh :: later) =
        [(b.play moves).state.runs.endpoint.pageRequest request] ∧
      (b.play (moves ++ .refresh :: later)).parties[issued moves]? ≠ some (.ended (.refreshed (.ok none))) := by
  obtain ⟨next, hnext, hload⟩ := load_awaits (b.play moves).state request fun o => .refreshed (o.map some)
  have hadvance : (tagged .refreshed performRefresh).advance (b.play moves).state =
      (((b.play moves).state.issue (.loadPage request)).1,
        .awaiting ((b.play moves).state.runs.endpoint.pageRequest request) next) := by
    rw [refresh_advance, startRefresh_some h]
    change (((onRuns _).bind _).bind _).advance _ = _
    rw [Activity.bind_assoc]
    exact hload _
  obtain ⟨hsent, hresult⟩ := over_with_reply (m := .refresh) rfl hadvance hnext later
  refine ⟨hsent, fun hnone => ?_⟩
  obtain ⟨o, ho⟩ := hresult _ hnone
  cases o <;> cases ho

/-! ## Main statement -/

/-- A refresh sends nothing and comes to nothing exactly if each page asked for before it was followed by a reset.
Otherwise it sends one request, the same as was sent for the page asked for last, whatever has come or is still to come
of that page, of other effects and of the refresh itself. -/
theorem refresh_repeats_last_request (client : Api.Client) (moves later : List Move) :
    let b := new client
    let history := moves ++ .refresh :: later
    let refresh := issued moves
    let forgotten := ∀ before request between, moves = before ++ .page request :: between → .reset ∈ between
    (b.requestsOf refresh history = [] ↔ forgotten) ∧
    ((b.play history).parties[refresh]? = some (.ended (.refreshed (.ok none))) ↔ forgotten) ∧
    ∀ before request between, moves = before ++ .page request :: between →
      (∀ m ∈ between, m ≠ .reset ∧ ∀ request', m ≠ .page request') →
      b.requestsOf refresh history = [client.runs.pageRequest request] ∧
        b.requestsOf (issued before) history = [client.runs.pageRequest request] := by
  intro b history refresh forgotten
  have hlast : (b.play moves).state.lastRequest = lastPage? moves := (remembers_play client moves).state
  have hforgotten : lastPage? moves = none ↔ forgotten := lastPage?_eq_none
  refine ⟨?_, ?_, fun before request between hmoves hbetween => ?_⟩
  · rw [← hforgotten]
    cases h : lastPage? moves with
    | none => exact iff_of_true (refresh_sent_none (hlast.trans h) later).1 rfl
    | some request =>
      have hsent := (refresh_sent_some (hlast.trans h) later).1
      exact iff_of_false (fun hnothing => nomatch hnothing.symm.trans hsent) nofun
  · rw [← hforgotten]
    cases h : lastPage? moves with
    | none => exact iff_of_true (refresh_sent_none (hlast.trans h) later).2 rfl
    | some request => exact iff_of_false (refresh_sent_some (hlast.trans h) later).2 nofun
  · have hpage : lastPage? moves = some request := by
      rw [hmoves, ← List.singleton_append, ← List.append_assoc, lastPage?_append hbetween, lastPage?_concat]
      rfl
    have hrefreshed := (refresh_sent_some (hlast.trans hpage) later).1
    have hsent := page_sent b before (between ++ .refresh :: later) request
    rw [endpoint_play] at hrefreshed hsent
    refine ⟨hrefreshed, ?_⟩
    have hhistory : history = before ++ .page request :: (between ++ .refresh :: later) := by
      rw [← List.cons_append, ← List.append_assoc, ← hmoves]
    rw [hhistory, hsent]

/-- The page asked for last is fetched again although its load failed and the one before it is still in flight, but not
after a reset. -/
theorem failed_page_fetched_again :
    let b := new ⟨"http://api.test"⟩
    let refused : Api.Reply := .response ⟨500, ""⟩
    let asking : Api.Request := ⟨.get, "http://api.test/runs", [("page", "3"), ("count", "25")], none⟩
    let pages : List Move := [.page (.plain 0 10), .page (.plain 2 25)]
    b.requestsOf 2 (pages ++ [.reply 1 refused, .refresh]) = [asking] ∧
      b.requestsOf 1 (pages ++ [.reply 1 refused, .refresh]) = [asking] ∧
      b.requestsOf 2 (pages ++ [.reset, .reply 1 refused, .refresh]) = [] := by
  intro b refused asking pages
  have hasking : (Api.Client.mk "http://api.test").runs.pageRequest (.plain 2 25) = asking := by decide +kernel
  obtain ⟨-, -, hsame⟩ := refresh_repeats_last_request ⟨"http://api.test"⟩ (pages ++ [.reply 1 refused]) []
  obtain ⟨hnothing, -, -⟩ := refresh_repeats_last_request ⟨"http://api.test"⟩ (pages ++ [.reset, .reply 1 refused]) []
  have hreply : ∀ m ∈ [Move.reply 1 refused], m ≠ .reset ∧ ∀ request, m ≠ .page request := by
    intro m hm
    obtain rfl := List.mem_singleton.mp hm
    exact ⟨nofun, fun _ => nofun⟩
  obtain ⟨hagain, hbefore⟩ := hsame [.page (.plain 0 10)] (.plain 2 25) [.reply 1 refused] rfl hreply
  rw [hasking] at hagain hbefore
  exact ⟨hagain, hbefore, hnothing.mpr (lastPage?_eq_none.mp rfl)⟩

end RunWatch.RunBoard
