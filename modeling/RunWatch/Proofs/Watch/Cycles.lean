import Mathlib.Data.List.Forall2
import RunWatch.Proofs.Watch.Histories
import RunWatch.Proofs.Watch.Stages
import RunWatch.Proofs.Watch.Transitions

/-!
# Cycles that overlap

Any number of cycles of one watcher, whose replies arrive in any order, and each of which can be held up between putting
its page on the board and looking at it.  `Watcher.play` is the ensemble that a history leads to.

`Watched` is the invariant: the board holds the page that has landed last, the statuses known are those of `digest` over
the pages that the looks so far have found, the cycles that have looked report what `digest` says of their looks, and
the others report nothing.
-/

namespace RunWatch.Watch

namespace Watcher

/-- A move as it happens among the cycles at work. -/
def Move.occurrence : Move → Occurrence Watcher Outcome
  | begin => .enters cycle
  | reply i r => .reaches i (.reply r)
  | proceed i => .reaches i .time

/-- A watcher and its cycles after some moves. -/
def play (w : Watcher) (moves : List Move) : Ensemble Watcher Outcome :=
  (Ensemble.alone w).run (moves.map Move.occurrence)

/-- The requests that a cycle sends over some moves. -/
def requestsOf (w : Watcher) (i : Nat) (moves : List Move) : List Api.Request :=
  (Ensemble.alone w).requestsOf i (moves.map Move.occurrence)

theorem play_concat (w : Watcher) (moves : List Move) (m : Move) :
    w.play (moves ++ [m]) = (w.play moves).step m.occurrence :=
  Ensemble.run_map_concat _ Move.occurrence moves m

theorem requestsOf_concat (w : Watcher) (i : Nat) (moves : List Move) (m : Move) :
    w.requestsOf i (moves ++ [m]) = w.requestsOf i moves ++ ((w.play moves).asks? i m.occurrence).toList :=
  Ensemble.requestsOf_map_concat _ i Move.occurrence moves m

theorem length_play (w : Watcher) (moves : List Move) : (w.play moves).parties.length = (trails moves).length := by
  induction moves using List.reverseRecOn with
  | nil => rfl
  | append_singleton moves m ih =>
    rw [play_concat, trails_concat, Ensemble.length_step, ih]
    cases m with
    | begin =>
      rw [follow, List.length_append]
      rfl
    | reply i r => exact (List.length_modify ..).symm
    | proceed i => exact (List.length_modify ..).symm

/-! ## What holds of every history -/

/-- What holds of a cycle that has looked: it has reported, or will with a few replies more. -/
def Reports (w : Watcher) (moves : List Move) (i : Nat) (page : Page Run) (ts : List Transition) : Prop :=
  ∃ first tests p m, (trails moves)[i]? = some (.gone first tests) ∧ (w.play moves).parties[i]? = some p ∧
    p.EndsWithin (· = found page ts) m ∧
    (m + tests.length ≤ 2 * (running page.items).length ∨ ∃ o, p = .ended o)

/-- What holds of a cycle that has not looked: it has asked for the page and for nothing else, and it is over, without a
transition, when the page has failed, or when it has gone on though another page had superseded its own. -/
inductive Silent (w : Watcher) (moves : List Move) (i : Nat) : Trail → Prop
  | waiting (hsent : w.requestsOf i moves = [w.pageAsked])
      (hparty : (w.play moves).parties[i]? = some (.awaiting w.pageAsked (w.onPage i))) : Silent w moves i .waiting
  | failed {t : Trail} {first : Api.Reply} {fault : Api.Fault} (hfirst : t.first? = some first)
      (hreply : first.decode (Page.codec Run) = .error fault) (hsent : w.requestsOf i moves = [w.pageAsked])
      (hparty : (w.play moves).parties[i]? = some (.ended (.error ⟨decide (0 < i), .api fault⟩))) : Silent w moves i t
  | settled {first : Api.Reply} {page : Page Run} (hreply : first.decode (Page.codec Run) = .ok page)
      (hsent : w.requestsOf i moves = [w.pageAsked])
      (hparty : (w.play moves).parties[i]? = some (.resting (rest (decide (HasLanded moves i))))) :
      Silent w moves i (.held first)
  | superseded {first : Api.Reply} {later : List Api.Reply} {page : Page Run} {overview : Overview}
      (hreply : first.decode (Page.codec Run) = .ok page) (hnot : ¬HasLanded moves i)
      (hsent : w.requestsOf i moves = [w.pageAsked])
      (hparty : (w.play moves).parties[i]? = some (.ended (.ok ⟨overview, []⟩))) :
      Silent w moves i (.gone first later)

/-- What holds of a watcher and its cycles after every history. -/
structure Watched (w : Watcher) (moves : List Move) : Prop where
  standing : Standing w (w.play moves).state (trails moves).length
  board : ∀ l, (landings moves).getLast? = some l → (w.play moves).state.board.runs.listing.items = l.page.items
  known : (w.play moves).state.known = (digest w.known (pagesSeen moves)).1
  reports : List.Forall₂ (fun look ts => w.Reports moves look.cycle look.landing.page ts) (looks moves)
    (digest w.known (pagesSeen moves)).2
  silent : ∀ i t, (trails moves)[i]? = some t → ¬HasLooked moves i → w.Silent moves i t

theorem watched_nil (client : Api.Client) (project : Uuid) (pageSize : UInt32) :
    (new client project pageSize).Watched [] :=
  ⟨standing_new client project pageSize, nofun, rfl, .nil, nofun⟩

variable {w : Watcher} {moves : List Move} {i : Nat} {t : Trail} {m : Move}

theorem Watched.reports_of_hasLooked (h : w.Watched moves) (hi : HasLooked moves i) :
    ∃ page ts, w.Reports moves i page ts := by
  obtain ⟨look, hlook, rfl⟩ := List.mem_map.mp hi
  obtain ⟨k, hk, rfl⟩ := List.getElem_of_mem hlook
  exact ⟨_, _, h.reports.get hk (h.reports.length_eq ▸ hk)⟩

/-- A move that brings nothing that a cycle waits for. -/
def Passes (w : Watcher) (moves : List Move) (i : Nat) (m : Move) : Prop :=
  ∀ p signal, (w.play moves).parties[i]? = some p → m.occurrence = .reaches i signal → p.onward? signal = none

theorem eq_reply_of_occurrence {r : Api.Reply} (hm : m.occurrence = .reaches i (.reply r)) : m = .reply i r := by
  cases m with
  | begin => cases hm
  | proceed j => cases hm
  | reply j r' =>
    cases hm
    rfl

theorem passes_of_elsewhere (hm : ∀ signal, m.occurrence ≠ .reaches i signal) : w.Passes moves i m :=
  fun _ signal _ hsignal => absurd hsignal (hm signal)

theorem passes_of_party {p : Party Watcher Outcome} (hparty : (w.play moves).parties[i]? = some p) {signal : Signal}
    (hm : m.occurrence = .reaches i signal) (hon : p.onward? signal = none) : w.Passes moves i m := by
  intro p' signal' hparty' hm'
  obtain rfl := Option.some.inj (hparty.symm.trans hparty')
  obtain ⟨-, rfl⟩ := Occurrence.reaches.inj (hm.symm.trans hm')
  exact hon

/-- Such a move leaves the cycle as it is. -/
theorem Passes.stays (h : w.Passes moves i m) {p : Party Watcher Outcome}
    (hparty : (w.play moves).parties[i]? = some p) :
    (w.play (moves ++ [m])).parties[i]? = some p ∧ w.requestsOf i (moves ++ [m]) = w.requestsOf i moves := by
  obtain ⟨hparty', hasks⟩ := Ensemble.unreached hparty fun signal hsignal => h p signal hparty hsignal
  rw [requestsOf_concat, play_concat, hasks]
  exact ⟨hparty', List.append_nil _⟩

/-- If it was meant for the cycle, it leaves everything as it is. -/
theorem Passes.play_eq (h : w.Passes moves i m) {signal : Signal} (hm : m.occurrence = .reaches i signal) :
    w.play (moves ++ [m]) = w.play moves := by
  rw [play_concat, hm]
  cases hparty : (w.play moves).parties[i]? with
  | none => exact Ensemble.step_reaches_none (by rw [Ensemble.onward?, hparty, Option.bind_none])
  | some p => exact (Ensemble.unmoved hparty (h p signal hparty hm)).1

/-- A move that brings what a cycle waits for plays the cycle on. -/
theorem play_reached {p q : Party Watcher Outcome} (hparty : (w.play moves).parties[i]? = some p) {signal : Signal}
    (hm : m.occurrence = .reaches i signal) {a : Activity Watcher Outcome} (hon : p.onward? signal = some a)
    {w' : Watcher} (hadvance : a.advance (w.play moves).state = (w', q)) :
    (w.play (moves ++ [m])).state = w' ∧ (w.play (moves ++ [m])).parties[i]? = some q ∧
      w.requestsOf i (moves ++ [m]) = w.requestsOf i moves ++ q.request?.toList := by
  obtain ⟨hstate, hparty', hasks, -⟩ := Ensemble.reached hparty hon hadvance
  rw [requestsOf_concat, play_concat, hm, hasks]
  exact ⟨hstate, hparty', rfl⟩

theorem onward?_ended (o : Outcome) (signal : Signal) : (Party.ended o : Party Watcher Outcome).onward? signal = none := by
  cases signal <;> rfl

/-! ### Cycles that have looked -/

/-- A move that brings nothing that such a cycle waits for leaves it reporting the same. -/
theorem Reports.stays {page : Page Run} {ts : List Transition} (h : w.Reports moves i page ts)
    (hm : w.Passes moves i m) : w.Reports (moves ++ [m]) i page ts := by
  obtain ⟨first, tests, p, k, htrail, hparty, hends, hcount⟩ := h
  obtain ⟨tests', hafter⟩ := Trail.gone_after first tests i m
  refine ⟨first, tests', p, k, hafter ▸ trail_after htrail m, (hm.stays hparty).1, hends, ?_⟩
  by_cases hreply : ∃ r, m = .reply i r
  · obtain ⟨r, rfl⟩ := hreply
    -- It does not wait for a reply, so it has ended.
    cases hends with
    | ended h => exact .inr ⟨_, rfl⟩
    | awaiting h => cases hm _ (.reply r) hparty rfl
  · rw [Trail.gone_after_of_ne fun r hr => hreply ⟨r, hr⟩] at hafter
    obtain ⟨-, rfl⟩ := Trail.gone.inj hafter
    exact hcount

/-- A move that reaches a cycle that has looked leaves the watcher alone, and the cycle reports the same. -/
theorem Reports.onto {page : Page Run} {ts : List Transition} (h : w.Reports moves i page ts) {signal : Signal}
    (hm : m.occurrence = .reaches i signal) :
    (w.play (moves ++ [m])).state = (w.play moves).state ∧ w.Reports (moves ++ [m]) i page ts := by
  obtain ⟨first, tests, p, k, htrail, hparty, hends, hcount⟩ := id h
  cases hon : p.onward? signal with
  | none =>
    have hpasses := passes_of_party hparty hm hon
    exact ⟨congrArg Ensemble.state (hpasses.play_eq hm), h.stays hpasses⟩
  | some a =>
    obtain ⟨r, rfl⟩ := hends.reply_of_onward hon
    obtain rfl := eq_reply_of_occurrence hm
    obtain ⟨k', rfl, ha⟩ := hends.onward hon
    obtain ⟨hstate, hends'⟩ := ha.advance (w.play moves).state
    obtain ⟨hstate', hparty', -⟩ := play_reached hparty hm hon rfl
    have htrail' := trail_after htrail (.reply i r)
    rw [Trail.after, if_pos rfl, Trail.hear] at htrail'
    refine ⟨hstate'.trans hstate, first, tests ++ [r], _, k', htrail', hparty', hends', ?_⟩
    rcases hcount with hcount | ⟨o, rfl⟩
    · left
      rw [List.length_append, List.length_singleton]
      omega
    · cases hon

/-- A cycle that has found no run going on has reported. -/
theorem Reports.ended {page : Page Run} {ts : List Transition} (h : w.Reports moves i page ts)
    (hnone : running page.items = []) : (w.play moves).parties[i]? = some (.ended (found page ts)) := by
  obtain ⟨first, tests, p, m, -, hparty, hends, hcount⟩ := h
  have hended : ∃ o, p = .ended o := by
    rcases hcount with hcount | hended
    · rw [hnone, List.length_nil] at hcount
      obtain rfl : m = 0 := by omega
      exact hends.ended_of_zero
    · exact hended
  obtain ⟨o, rfl⟩ := hended
  rw [hparty, hends.result rfl]

/-- Whatever happens, a cycle that has looked reports the same. -/
theorem Reports.step {page : Page Run} {ts : List Transition} (h : w.Reports moves i page ts) (m : Move) :
    w.Reports (moves ++ [m]) i page ts := by
  by_cases hm : ∃ signal, m.occurrence = .reaches i signal
  · obtain ⟨signal, hm⟩ := hm
    exact (h.onto hm).2
  · exact h.stays (passes_of_elsewhere fun signal hsignal => hm ⟨signal, hsignal⟩)

/-! ### Cycles that have not -/

/-- A move that brings nothing that a silent cycle waits for leaves it silent. -/
theorem Silent.stays (h : w.Silent moves i t) (htrail : (trails moves)[i]? = some t) (hm : w.Passes moves i m) :
    w.Silent (moves ++ [m]) i (t.after i m) := by
  cases h with
  | waiting hsent hparty =>
    have hnot : ∀ r, m ≠ .reply i r := by
      rintro r rfl
      cases hm _ (.reply r) hparty rfl
    obtain ⟨hparty', hsame⟩ := hm.stays hparty
    rw [Trail.waiting_after hnot]
    exact .waiting (hsame.trans hsent) hparty'
  | failed hfirst hreply hsent hparty =>
    obtain ⟨hparty', hsame⟩ := hm.stays hparty
    exact .failed (Trail.first?_after hfirst i m) hreply (hsame.trans hsent) hparty'
  | settled hreply hsent hparty =>
    have hnot : m ≠ .proceed i := by
      rintro rfl
      cases hm _ .time hparty rfl
    obtain ⟨hparty', hsame⟩ := hm.stays hparty
    rw [Trail.held_after hnot]
    refine .settled hreply (hsame.trans hsent) ?_
    rw [hparty', decide_eq_decide.mpr (hasLanded_concat_iff htrail rfl)]
  | superseded hreply hnot hsent hparty =>
    obtain ⟨hparty', hsame⟩ := hm.stays hparty
    obtain ⟨later, hafter⟩ := Trail.gone_after _ _ i m
    rw [hafter]
    exact .superseded hreply (mt (hasLanded_concat_iff htrail rfl).mp hnot) (hsame.trans hsent) hparty'

/-- The first reply to a cycle leaves it silent, unless it lands the page. -/
theorem silent_of_reply (hsent : w.requestsOf i moves = [w.pageAsked])
    (hparty : (w.play moves).parties[i]? = some (.awaiting w.pageAsked (w.onPage i)))
    (htrail : (trails moves)[i]? = some .waiting)
    (hstanding : Standing w (w.play moves).state (trails moves).length) {r : Api.Reply}
    (hlanding : landing? moves (.reply i r) = none) :
    (w.play (moves ++ [.reply i r])).state = (w.play moves).state ∧ w.Silent (moves ++ [.reply i r]) i (.held r) := by
  cases hreply : r.decode (Page.codec Run) with
  | error fault =>
    obtain ⟨hstate, hparty', hsent'⟩ :=
      play_reached (m := .reply i r) hparty rfl (onward?_waiting w i r) (onPage_failed hreply (w.play moves).state)
    exact ⟨hstate, .failed rfl hreply (hsent'.trans (by rw [hsent]; rfl)) hparty'⟩
  | ok page =>
    have hlast : i + 1 ≠ (trails moves).length := by
      intro hlast
      have hsome : landing? moves (.reply i r) = some ⟨i, page⟩ :=
        landing?_eq_some.mpr ⟨r, rfl, htrail, hlast, hreply⟩
      cases hlanding.symm.trans hsome
    obtain ⟨hstate, hparty', hsent'⟩ :=
      play_reached (m := .reply i r) hparty rfl (onward?_waiting w i r) (onPage_superseded hstanding hlast hreply)
    refine ⟨hstate, .settled hreply (hsent'.trans (by rw [hsent]; rfl)) ?_⟩
    have hnot : ¬HasLanded (moves ++ [.reply i r]) i := by
      rw [HasLanded, landings_concat, hlanding, Option.toList_none, List.append_nil]
      exact not_hasLanded_of_waiting htrail
    rw [hparty', decide_eq_false hnot]

/-- A cycle that goes on without a look is over. -/
theorem silent_of_proceed {first : Api.Reply} {page : Page Run} (hreply : first.decode (Page.codec Run) = .ok page)
    (hsent : w.requestsOf i moves = [w.pageAsked])
    (hparty : (w.play moves).parties[i]? = some (.resting (rest (decide (HasLanded moves i)))))
    (htrail : (trails moves)[i]? = some (.held first)) (hlook : look? moves (.proceed i) = none) :
    (w.play (moves ++ [.proceed i])).state = (w.play moves).state ∧
      w.Silent (moves ++ [.proceed i]) i (.gone first []) := by
  have hnot : ¬HasLanded moves i := by
    intro hlanded
    obtain ⟨last, hlast⟩ := exists_getLast_of_hasLanded hlanded
    have hsome : look? moves (.proceed i) = some ⟨i, last⟩ :=
      look?_eq_some.mpr ⟨rfl, ⟨_, htrail⟩, hlanded, hlast⟩
    cases hlook.symm.trans hsome
  rw [decide_eq_false hnot] at hparty
  obtain ⟨hstate, hparty', hsent'⟩ :=
    play_reached (m := .proceed i) hparty rfl rfl (rest_false_advance (w.play moves).state)
  refine ⟨hstate, .superseded hreply ?_ (hsent'.trans (by rw [hsent]; rfl)) hparty'⟩
  exact mt (hasLanded_concat_iff htrail rfl).mp hnot

/-- A move that reaches a silent cycle leaves the watcher alone, unless it lands the page or makes the cycle look. -/
theorem Silent.onto (h : w.Silent moves i t) (htrail : (trails moves)[i]? = some t)
    (hstanding : Standing w (w.play moves).state (trails moves).length) {signal : Signal}
    (hm : m.occurrence = .reaches i signal) (hlanding : landing? moves m = none) (hlook : look? moves m = none) :
    (w.play (moves ++ [m])).state = (w.play moves).state ∧ w.Silent (moves ++ [m]) i (t.after i m) := by
  have hpassing (hpasses : w.Passes moves i m) :
      (w.play (moves ++ [m])).state = (w.play moves).state ∧ w.Silent (moves ++ [m]) i (t.after i m) :=
    ⟨congrArg Ensemble.state (hpasses.play_eq hm), h.stays htrail hpasses⟩
  cases h with
  | failed _ _ _ hparty => exact hpassing (passes_of_party hparty hm (onward?_ended _ signal))
  | superseded _ _ _ hparty => exact hpassing (passes_of_party hparty hm (onward?_ended _ signal))
  | waiting hsent hparty =>
    cases m with
    | begin => cases hm
    | proceed j =>
      obtain ⟨rfl, rfl⟩ := Occurrence.reaches.inj hm
      exact hpassing (passes_of_party hparty hm rfl)
    | reply j r =>
      obtain ⟨rfl, rfl⟩ := Occurrence.reaches.inj hm
      rw [Trail.after, if_pos rfl, Trail.hear]
      exact silent_of_reply hsent hparty htrail hstanding hlanding
  | settled hreply hsent hparty =>
    cases m with
    | begin => cases hm
    | reply j r =>
      obtain ⟨rfl, rfl⟩ := Occurrence.reaches.inj hm
      exact hpassing (passes_of_party hparty hm rfl)
    | proceed j =>
      obtain ⟨rfl, rfl⟩ := Occurrence.reaches.inj hm
      rw [Trail.after, if_pos rfl, Trail.goOn]
      exact silent_of_proceed hreply hsent hparty htrail hlook

/-! ### One move more -/

/-- The cycles that a move does not reach are as silent as before. -/
theorem Watched.silent_elsewhere (h : w.Watched moves) (hm : ∀ signal, m.occurrence ≠ .reaches i signal)
    (hbefore : i < (trails moves).length) (htrail : (trails (moves ++ [m]))[i]? = some t)
    (hnot : ¬HasLooked moves i) : w.Silent (moves ++ [m]) i t := by
  have htrail' : (trails moves)[i]? = some (trails moves)[i] := List.getElem?_eq_getElem hbefore
  have hafter := (h.silent i _ htrail' hnot).stays htrail' (passes_of_elsewhere hm)
  obtain rfl := Option.some.inj (htrail.symm.trans (trail_after htrail' m))
  exact hafter

theorem length_trails_of_reaches {signal : Signal} (hm : m.occurrence = .reaches i signal) :
    (trails (moves ++ [m])).length = (trails moves).length := by
  refine length_trails_concat moves ?_
  rintro rfl
  cases hm

/-- A move that reaches one cycle leaves the others silent. -/
theorem Watched.silent_others (h : w.Watched moves) {signal : Signal} (hm : m.occurrence = .reaches i signal) {j : Nat}
    (hj : j ≠ i) (htrail : (trails (moves ++ [m]))[j]? = some t) (hnot : ¬HasLooked moves j) :
    w.Silent (moves ++ [m]) j t := by
  refine h.silent_elsewhere (fun signal' hsignal => hj ?_) ?_ htrail hnot
  · exact (Occurrence.reaches.inj (hsignal.symm.trans hm)).1
  · rw [← length_trails_of_reaches hm]
    exact (List.getElem?_eq_some_iff.mp htrail).1

/-- A cycle that has landed and not looked waits at its pause for the look. -/
theorem Watched.due (h : w.Watched moves) (hlanded : HasLanded moves i) (hnot : ¬HasLooked moves i)
    {first : Api.Reply} (htrail : (trails moves)[i]? = some (.held first)) :
    (w.play moves).parties[i]? = some (.resting (rest true)) := by
  cases h.silent i _ htrail hnot with
  | failed hfirst hreply =>
    -- What it has landed is the reply that it holds, so that is a page.
    obtain ⟨l, hl, rfl⟩ := List.mem_map.mp hlanded
    obtain ⟨t, first', htrail', hfirst', hpage⟩ := (coherent moves).heard l hl
    obtain rfl := Option.some.inj (htrail.symm.trans htrail')
    obtain rfl := Option.some.inj (hfirst.symm.trans hfirst')
    cases hreply.symm.trans hpage
  | settled hreply hsent hparty => rw [hparty, decide_eq_true hlanded]

/-- A move that brings no look and leaves the statuses known as they are. -/
theorem Watched.extend (h : w.Watched moves) (hlook : look? moves m = none)
    (hstanding : Standing w (w.play (moves ++ [m])).state (trails (moves ++ [m])).length)
    (hboard : ∀ l, (landings (moves ++ [m])).getLast? = some l →
      (w.play (moves ++ [m])).state.board.runs.listing.items = l.page.items)
    (hknown : (w.play (moves ++ [m])).state.known = (w.play moves).state.known)
    (hsilent : ∀ i t, (trails (moves ++ [m]))[i]? = some t → ¬HasLooked moves i → w.Silent (moves ++ [m]) i t) :
    w.Watched (moves ++ [m]) := by
  have hlooks : looks (moves ++ [m]) = looks moves := by
    rw [looks_concat, hlook, Option.toList_none, List.append_nil]
  refine ⟨hstanding, hboard, ?_, ?_, ?_⟩
  · rw [pagesSeen, hlooks, hknown]
    exact h.known
  · rw [pagesSeen, hlooks]
    exact h.reports.imp fun look ts hreports => hreports.step m
  · intro i t htrail hnot
    rw [HasLooked, hlooks] at hnot
    exact hsilent i t htrail hnot

theorem begin_elsewhere (i : Nat) (signal : Signal) : Move.begin.occurrence ≠ .reaches i signal := by
  intro h
  cases h

theorem Watched.begin (h : w.Watched moves) : w.Watched (moves ++ [.begin]) := by
  obtain ⟨w', hstanding, hknown, hlisting, hadvance⟩ := cycle_advance h.standing
  obtain ⟨hstate, hparty, hasks⟩ := Ensemble.entered (w.play moves) hadvance
  have hplay : w.play (moves ++ [.begin]) = (w.play moves).step (.enters cycle) := w.play_concat moves .begin
  have hlandings : landings (moves ++ [.begin]) = landings moves := by
    rw [landings_concat]
    exact List.append_nil _
  refine h.extend rfl ?_ ?_ ?_ fun i t htrail hnot => ?_
  · rw [hplay, hstate, trails_concat, follow, List.length_append]
    exact hstanding
  · rw [hplay, hstate, hlandings, hlisting]
    exact h.board
  · rw [hplay, hstate, hknown]
  · by_cases hi : i < (trails moves).length
    · exact h.silent_elsewhere (begin_elsewhere i) hi htrail hnot
    · rw [trails_concat, follow] at htrail
      have hlast : i = (trails moves).length := by
        have hlt := (List.getElem?_eq_some_iff.mp htrail).1
        rw [List.length_append, List.length_singleton] at hlt
        omega
      subst hlast
      obtain rfl : .waiting = t := by simpa using htrail
      have hbefore : w.requestsOf (trails moves).length moves = [] :=
        Ensemble.requestsOf_of_length_le (Nat.le_of_eq (w.length_play moves))
      rw [length_play] at hparty hasks
      refine .waiting ?_ ?_
      · rw [requestsOf_concat, hbefore, Move.occurrence, hasks]
        rfl
      · rw [hplay]
        exact hparty

/-- A move that reaches a cycle leaves the watcher alone, unless it lands a page or brings a look. -/
theorem Watched.idle (h : w.Watched moves) {signal : Signal} (hm : m.occurrence = .reaches i signal)
    (hlanding : landing? moves m = none) (hlook : look? moves m = none) :
    (w.play (moves ++ [m])).state = (w.play moves).state ∧
      ∀ t, (trails (moves ++ [m]))[i]? = some t → ¬HasLooked moves i → w.Silent (moves ++ [m]) i t := by
  cases htrail : (trails moves)[i]? with
  | none =>
    have hlength : (trails moves).length ≤ i := List.getElem?_eq_none_iff.mp htrail
    have hpasses : w.Passes moves i m := by
      intro p _ hparty _
      have hlt := (List.getElem?_eq_some_iff.mp hparty).1
      rw [length_play] at hlt
      omega
    refine ⟨congrArg Ensemble.state (hpasses.play_eq hm), fun t htrail' _ => ?_⟩
    have hlt := (List.getElem?_eq_some_iff.mp htrail').1
    rw [length_trails_of_reaches hm] at hlt
    omega
  | some t =>
    by_cases hlooked : HasLooked moves i
    · obtain ⟨page, ts, hreports⟩ := h.reports_of_hasLooked hlooked
      exact ⟨(hreports.onto hm).1, fun _ _ hnot => absurd hlooked hnot⟩
    · obtain ⟨hstate, hsilent⟩ := (h.silent i t htrail hlooked).onto htrail h.standing hm hlanding hlook
      refine ⟨hstate, fun t' htrail' _ => ?_⟩
      obtain rfl := Option.some.inj (htrail'.symm.trans (trail_after htrail m))
      exact hsilent

theorem Watched.step_idle (h : w.Watched moves) {signal : Signal} (hm : m.occurrence = .reaches i signal)
    (hlanding : landing? moves m = none) (hlook : look? moves m = none) : w.Watched (moves ++ [m]) := by
  obtain ⟨hstate, hsilent⟩ := h.idle hm hlanding hlook
  refine h.extend hlook ?_ ?_ (congrArg Watcher.known hstate) fun j t htrail hnot => ?_
  · rw [hstate, length_trails_of_reaches hm]
    exact h.standing
  · rw [hstate, landings_concat, hlanding, Option.toList_none, List.append_nil]
    exact h.board
  · by_cases hj : j = i
    · subst hj
      exact hsilent t htrail hnot
    · exact h.silent_others hm hj htrail hnot

/-- A page that lands is on the board then; it is not looked at yet. -/
theorem Watched.land (h : w.Watched moves) {l : Landing} (hlanding : landing? moves m = some l) :
    w.Watched (moves ++ [m]) := by
  obtain ⟨r, rfl, htrail, hlast, hreply⟩ := landing?_eq_some.mp hlanding
  have hnot : ¬HasLooked moves l.cycle := not_hasLooked_of_waiting htrail
  have hlandings : landings (moves ++ [.reply l.cycle r]) = landings moves ++ [l] := by
    rw [landings_concat, hlanding, Option.toList_some]
  cases h.silent l.cycle .waiting htrail hnot with
  | failed hfirst => cases hfirst
  | waiting hsent hparty =>
    obtain ⟨w', hadvance, hstanding, hknown, hboard⟩ := onPage_landed h.standing hlast hreply
    obtain ⟨hstate, hparty', hsent'⟩ :=
      play_reached (m := .reply l.cycle r) hparty rfl (onward?_waiting w l.cycle r) hadvance
    refine h.extend rfl ?_ ?_ ?_ fun j t htrail' hnot' => ?_
    · rw [hstate, length_trails_of_reaches (m := .reply l.cycle r) rfl]
      exact hstanding
    · rw [hstate, hlandings, List.getLast?_concat]
      intro l' hl'
      obtain rfl := Option.some.inj hl'
      exact hboard
    · rw [hstate, hknown]
    · by_cases hj : j = l.cycle
      · subst hj
        have hhas : HasLanded (moves ++ [.reply l.cycle r]) l.cycle := by
          rw [HasLanded, hlandings, List.map_append]
          exact List.mem_append_right _ (List.mem_singleton_self _)
        obtain rfl : .held r = t := by
          rw [trail_after htrail, Trail.after, if_pos rfl, Trail.hear] at htrail'
          exact Option.some.inj htrail'
        refine .settled hreply (hsent'.trans (by rw [hsent]; rfl)) ?_
        rw [hparty', decide_eq_true hhas]
      · exact h.silent_others (m := .reply l.cycle r) rfl hj htrail' hnot'

/-- A look takes in the page on the board, and the cycle reports what it has found there. -/
theorem Watched.look (h : w.Watched moves) {look : Look} (hlook : look? moves m = some look) :
    w.Watched (moves ++ [m]) := by
  obtain ⟨rfl, ⟨first, htrail⟩, hlanded, hlast⟩ := look?_eq_some.mp hlook
  have hnot : ¬HasLooked moves look.cycle := by
    intro hi
    obtain ⟨look', hlook', heq⟩ := List.mem_map.mp hi
    exact not_look?_of_hasLooked hlook' hlook heq
  have hlooks : looks (moves ++ [.proceed look.cycle]) = looks moves ++ [look] := by
    rw [looks_concat, hlook, Option.toList_some]
  have hseen : pagesSeen (moves ++ [.proceed look.cycle]) = pagesSeen moves ++ [look.landing.page] := by
    rw [pagesSeen_concat, hlook]
    rfl
  have hlandings : landings (moves ++ [.proceed look.cycle]) = landings moves := by
    rw [landings_concat]
    exact List.append_nil _
  have hparty := h.due hlanded hnot htrail
  have hon : (Party.resting (rest true) : Party Watcher Outcome).onward? .time = some (rest true) := rfl
  obtain ⟨p, hadvance, hends⟩ := rest_true_advance (h.board look.landing hlast)
  obtain ⟨hstate, hparty', -⟩ := play_reached (m := .proceed look.cycle) hparty rfl hon hadvance
  rw [h.known] at hends
  have hnew : w.Reports (moves ++ [.proceed look.cycle]) look.cycle look.landing.page
      (transitions (digest w.known (pagesSeen moves)).1 look.landing.page.items).2 := by
    refine ⟨first, [], _, _, ?_, hparty', hends, .inl (Nat.le_refl _)⟩
    rw [trail_after htrail, Trail.after, if_pos rfl, Trail.goOn]
  refine ⟨?_, ?_, ?_, ?_, ?_⟩
  · rw [hstate, length_trails_of_reaches (m := .proceed look.cycle) rfl]
    exact ⟨h.standing.client, h.standing.project, h.standing.pageSize, h.standing.endpoint, h.standing.desk,
      h.standing.lastRequest⟩
  · rw [hstate, hlandings]
    exact h.board
  · rw [hstate, hseen, digest_concat, ← h.known]
  · rw [hlooks, hseen, digest_concat]
    exact List.rel_append (h.reports.imp fun look ts hreports => hreports.step _) (.cons hnew .nil)
  · intro j t htrail' hnot'
    rw [HasLooked, hlooks, List.map_append, List.mem_append, not_or] at hnot'
    have hj : j ≠ look.cycle := fun hj => hnot'.2 (List.mem_singleton.mpr hj)
    exact h.silent_others (m := .proceed look.cycle) rfl hj htrail' hnot'.1

theorem Watched.step (h : w.Watched moves) (m : Move) : w.Watched (moves ++ [m]) := by
  cases hlanding : landing? moves m with
  | some l => exact h.land hlanding
  | none =>
    cases hlook : look? moves m with
    | some look => exact h.look hlook
    | none =>
      cases m with
      | begin => exact h.begin
      | reply i r => exact h.step_idle rfl hlanding hlook
      | proceed i => exact h.step_idle rfl hlanding hlook

theorem watched (client : Api.Client) (project : Uuid) (pageSize : UInt32) (moves : List Move) :
    (new client project pageSize).Watched moves := by
  induction moves using List.reverseRecOn with
  | nil => exact watched_nil client project pageSize
  | append_singleton moves m ih => exact ih.step m

/-! ## Main statement -/

/-- However the cycles of a watcher overlap, the looks at the board, in the order in which they are taken, report what
`transitions` finds from one page looked at to the next.  Taken together these are all the changes of status in the pages
looked at, each of them once.  A cycle looks only if its page has landed, once at most, and finds this page or one that
has landed since; if no page lands before the one on the board has been looked at, the pages looked at are all those
that land, in their order, which is that of the cycles.  A cycle that has looked has reported when it has had two
replies for each run that is going on.  One whose page failed or came too late asks for nothing but the page, finds no
transition and leaves the watcher alone. -/
theorem transitions_reported_once (client : Api.Client) (project : Uuid) (pageSize : UInt32)
    (moves : List Move) :
    let w := new client project pageSize
    let e := w.play moves
    let seen := pagesSeen moves
    Coherent moves ∧
    e.state.known = (digest [] seen).1 ∧
    (digest [] seen).2.flatten = changesAfter [] (seen.flatMap Page.items) ∧
    List.Forall₂ (fun look ts => ∃ first tests p, (trails moves)[look.cycle]? = some (.gone first tests) ∧
        e.parties[look.cycle]? = some p ∧ (∀ o, p = .ended o → o = found look.landing.page ts) ∧
        (2 * (running look.landing.page.items).length ≤ tests.length → p = .ended (found look.landing.page ts)))
      (looks moves) (digest [] seen).2 ∧
    (KeepsUp moves → (∀ look ∈ looks moves, look.landing.cycle = look.cycle) ∧
      ∃ due, due.length ≤ 1 ∧ landings moves = (looks moves).map Look.landing ++ due) ∧
    (∀ i t, (trails moves)[i]? = some t → ¬HasLooked moves i →
      w.requestsOf i moves = [w.pageAsked] ∧
      (t.first? = none → ∃ next, e.parties[i]? = some (.awaiting w.pageAsked next)) ∧
      ∀ first, t.first? = some first →
        (∃ again fault, first.decode (Page.codec Run) = .error fault ∧
          e.parties[i]? = some (.ended (.error ⟨again, .api fault⟩))) ∨
        (∃ page, first.decode (Page.codec Run) = .ok page ∧
          ((t = .held first ∧ ∃ next, e.parties[i]? = some (.resting next)) ∨
            (¬HasLanded moves i ∧ ∃ overview, e.parties[i]? = some (.ended (.ok ⟨overview, []⟩)))))) ∧
    ∀ m, m ≠ .begin → landing? moves m = none → look? moves m = none → (w.play (moves ++ [m])).state = e.state := by
  intro w e seen
  have h := watched client project pageSize moves
  refine ⟨coherent moves, h.known, flatten_digest Known.recalls_nil seen, ?_, KeepsUp.looks_landings, ?_, ?_⟩
  · refine h.reports.imp fun look ts hreports => ?_
    obtain ⟨first, tests, p, m, htrail, hparty, hends, hcount⟩ := hreports
    refine ⟨first, tests, p, htrail, hparty, fun o ho => hends.result ho, fun henough => ?_⟩
    rcases hcount with hcount | ⟨o, ho⟩
    · obtain rfl : m = 0 := by omega
      obtain ⟨o, ho⟩ := hends.ended_of_zero
      rw [ho, hends.result ho]
    · rw [ho, hends.result ho]
  · intro i t htrail hnot
    cases h.silent i t htrail hnot with
    | waiting hsent hparty => exact ⟨hsent, fun _ => ⟨_, hparty⟩, nofun⟩
    | failed hfirst hreply hsent hparty =>
      refine ⟨hsent, fun hnone => (by rw [hnone] at hfirst; cases hfirst), fun first hfirst' => ?_⟩
      obtain rfl := Option.some.inj (hfirst.symm.trans hfirst')
      exact .inl ⟨_, _, hreply, hparty⟩
    | settled hreply hsent hparty =>
      refine ⟨hsent, nofun, fun first hfirst => ?_⟩
      obtain rfl := Option.some.inj hfirst
      exact .inr ⟨_, hreply, .inl ⟨rfl, _, hparty⟩⟩
    | superseded hreply hlanded hsent hparty =>
      refine ⟨hsent, nofun, fun first hfirst => ?_⟩
      obtain rfl := Option.some.inj hfirst
      exact .inr ⟨_, hreply, .inr ⟨hlanded, _, hparty⟩⟩
  · intro m hm hlanding hlook
    cases m with
    | begin => exact absurd rfl hm
    | reply i r => exact (h.idle rfl hlanding hlook).1
    | proceed i => exact (h.idle rfl hlanding hlook).1

/-- A run that fails is first seen by a cycle that is superseded: only the next cycle reports it. -/
theorem superseded_failure_reported_next :
    let client : Api.Client := ⟨"http://api.test"⟩
    let id (d : Fin 16) : Uuid := ⟨List.replicate 32 d, rfl⟩
    let run : Run := ⟨id 1, "load", none, ⟨id 2, none, none, none⟩, .failed, none, none, [], [], []⟩
    let page : Api.Reply := .response ⟨200,
      "\x7b\"entities\":[\x7b\"id\":\"11111111-1111-1111-1111-111111111111\",\"key\":\"load\"," ++
      "\"status\":\"FAILED\",\"pipeline\":\x7b\"id\":\"22222222-2222-2222-2222-222222222222\"\x7d\x7d]," ++
      "\"total\":1\x7d"⟩
    let moves : List Move := [.begin, .begin, .reply 0 page, .reply 1 page, .proceed 0, .proceed 1]
    KeepsUp moves ∧ landings moves = [⟨1, ⟨[run], 1⟩⟩] ∧ landings moves = (looks moves).map Look.landing ∧
      ((new client (id 3) 10).play moves).state.known = [(id 1, .failed)] ∧
      ((new client (id 3) 10).play moves).parties[1]? =
        some (.ended (found ⟨[run], 1⟩ [⟨id 1, "load", none, .failed⟩])) ∧
      (new client (id 3) 10).requestsOf 0 moves = [(new client (id 3) 10).pageAsked] := by
  intro client id run page moves
  have hkeeps : KeepsUp moves := by decide +kernel
  have hlandings : landings moves = [⟨1, ⟨[run], 1⟩⟩] := by decide +kernel
  have hlooks : looks moves = [⟨1, ⟨1, ⟨[run], 1⟩⟩⟩] := by decide +kernel
  have hdigest : digest [] [⟨[run], 1⟩] = ([(id 1, .failed)], [[⟨id 1, "load", none, .failed⟩]]) := by
    decide +kernel
  have htrails : trails moves = [.gone page [], .gone page []] := rfl
  have hseen : pagesSeen moves = [⟨[run], 1⟩] := by
    rw [pagesSeen, hlooks]
    rfl
  obtain ⟨-, hknown, -, hreports, hkeep, hsilent, -⟩ := transitions_reported_once client (id 3) 10 moves
  obtain ⟨-, due, -, hdue⟩ := hkeep hkeeps
  obtain rfl : due = [] := by
    rw [hlandings, hlooks] at hdue
    exact (List.cons.inj hdue).2.symm
  rw [hseen, hdigest] at hknown hreports
  rw [hlooks] at hreports
  obtain ⟨first, tests, p, -, hparty, -, hends⟩ := (List.forall₂_cons.mp hreports).1
  have hfew : 2 * (running [run]).length = 0 := by decide +kernel
  rw [hends (hfew ▸ Nat.zero_le _)] at hparty
  refine ⟨hkeeps, hlandings, hdue.trans (List.append_nil _), hknown, hparty, (hsilent 0 (.gone page []) ?_ ?_).1⟩
  · rw [htrails]
    rfl
  · rw [HasLooked, hlooks]
    decide

/-- Two pages land before the first look: that the run had failed is on the first of them, and no cycle reports it.
Neither does any cycle if a superseded page shows the failure and the next one no longer shows the run. -/
theorem failure_missed_between_looks :
    let client : Api.Client := ⟨"http://api.test"⟩
    let id (d : Fin 16) : Uuid := ⟨List.replicate 32 d, rfl⟩
    let run (d : Fin 16) (status : RunStatus) : Run :=
      ⟨id d, "load", none, ⟨id 3, none, none, none⟩, status, none, none, [], [], []⟩
    let reply (d : Fin 16) (status : String) : Api.Reply := .response ⟨200,
      "\x7b\"entities\":[\x7b\"id\":\"" ++ (id d).text ++ "\",\"key\":\"load\",\"status\":\"" ++ status ++
      "\",\"pipeline\":\x7b\"id\":\"" ++ (id 3).text ++ "\"\x7d\x7d],\"total\":2\x7d"⟩
    let page (d : Fin 16) (status : RunStatus) : Page Run := ⟨[run d status], 2⟩
    let w := new client (id 4) 1
    let held : List Move :=
      [.begin, .reply 0 (reply 1 "FAILED"), .begin, .reply 1 (reply 1 "COMPLETED"), .proceed 0, .proceed 1]
    let overtaken : List Move :=
      [.begin, .begin, .reply 0 (reply 1 "FAILED"), .reply 1 (reply 2 "COMPLETED"), .proceed 1, .proceed 0]
    ((digest [] ((landings held).map Landing.page)).2 =
        [[⟨id 1, "load", none, .failed⟩], [⟨id 1, "load", some .failed, .completed⟩]] ∧
      (w.play held).parties[0]? = some (.ended (found (page 1 .completed) [⟨id 1, "load", none, .completed⟩])) ∧
      (w.play held).parties[1]? = some (.ended (found (page 1 .completed) []))) ∧
    (reply 1 "FAILED").decode (Page.codec Run) = .ok (page 1 .failed) ∧
      (w.play overtaken).parties[1]? =
        some (.ended (found (page 2 .completed) [⟨id 2, "load", none, .completed⟩])) ∧
      ∃ overview, (w.play overtaken).parties[0]? = some (.ended (.ok ⟨overview, []⟩)) := by
  intro client id run reply page w held overtaken
  have hlooks : looks held = [⟨0, ⟨1, page 1 .completed⟩⟩, ⟨1, ⟨1, page 1 .completed⟩⟩] := by decide +kernel
  have hdigest : digest [] [page 1 .completed, page 1 .completed] =
      ([(id 1, .completed)], [[⟨id 1, "load", none, .completed⟩], []]) := by
    decide +kernel
  have hseen : pagesSeen held = [page 1 .completed, page 1 .completed] := by
    rw [pagesSeen, hlooks]
    rfl
  have hreports := (watched client (id 4) 1 held).reports
  have hknown : (new client (id 4) 1).known = [] := rfl
  rw [hknown, hseen, hdigest, hlooks] at hreports
  obtain ⟨hfirst, hrest⟩ := List.forall₂_cons.mp hreports
  have hsecond := (List.forall₂_cons.mp hrest).1
  have hlooks' : looks overtaken = [⟨1, ⟨1, page 2 .completed⟩⟩] := by decide +kernel
  have hseen' : pagesSeen overtaken = [page 2 .completed] := by
    rw [pagesSeen, hlooks']
    rfl
  have hdigest' : digest [] [page 2 .completed] =
      ([(id 2, .completed)], [[⟨id 2, "load", none, .completed⟩]]) := by
    decide +kernel
  have hwatched := watched client (id 4) 1 overtaken
  have hreports' := hwatched.reports
  rw [hknown, hseen', hdigest', hlooks'] at hreports'
  have hreply : (reply 1 "FAILED").decode (Page.codec Run) = .ok (page 1 .failed) := by decide +kernel
  have hnot : ¬HasLooked overtaken 0 := by
    rw [HasLooked, hlooks']
    decide
  refine ⟨⟨by decide +kernel, hfirst.ended rfl, hsecond.ended rfl⟩, hreply,
    (List.forall₂_cons.mp hreports').1.ended rfl, ?_⟩
  cases hwatched.silent 0 (.gone (reply 1 "FAILED") []) rfl hnot with
  | failed hfirst' hfault =>
    obtain rfl := Option.some.inj hfirst'
    cases hfault.symm.trans hreply
  | superseded _ _ _ hparty => exact ⟨_, hparty⟩

end Watcher

end RunWatch.Watch
