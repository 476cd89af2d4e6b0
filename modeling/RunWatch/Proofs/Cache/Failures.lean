import RunWatch.Proofs.Api.Exchanges
import RunWatch.Proofs.Cache.Renewal
import RunWatch.Proofs.Ensemble.Conversation

/-!
# Effects that fail

An effect fails at a reply that it waits for and cannot use (`Effect.Fails`).  Which replies it waits for is a
matter of the replies before (`Effect.Awaits`): one for each effect, and a second one for an effect that finds
everything and has been told that there is something to find.  In whatever state a cache is and whatever else
is at work on it, a failing reply ends its effect with the fault, and nothing else comes of it
(`Cache.failure_leaves_no_trace`).

The calls are followed through `Dialogue.after`.  `Effect.awaits_or_answers` and `Effect.after_eq_error_iff` say
what is left of the call of an effect after some replies, and `Cache.stands_after` that the party at work on the
effect has come as far.
-/

namespace RunWatch

open Api (Reply)

variable {R : Type} [Record R]

/-! ## The replies of an effect -/

namespace Effect

/-- Whether the body of a successful reply is what an effect expects. -/
def readsBody (effect : Effect R) (body : String) : Bool :=
  match effect with
  | getOne _ | createOne _ _ | updateOne _ => (Api.decodeText? (Record.codec (R := R)) body).isSome
  | findAll _ | loadPage _ => (Api.decodeText? (Page.codec R) body).isSome
  | deleteOne _ => true

/-- An effect that waits for a reply after it has got some. -/
inductive Awaits : Effect R → List Reply → Prop
  | first (effect : Effect R) : Awaits effect []
  /-- The total of a list is there, and everything has been asked for. -/
  | everything {request : FindRequest} {r : Reply} {probe : Page R}
      (hprobe : r.decode (Page.codec R) = .ok probe) (hsome : probe.total ≠ 0)
      (hfits : probe.total.toNat < UInt32.size) : Awaits (.findAll request) [r]

/-- A reply that fails an effect which has got some replies before, and the fault it fails with. -/
inductive Fails (endpoint : Api.Endpoint R) : Effect R → List Reply → Reply → Api.Fault → Prop
  | unusable {effect : Effect R} {got : List Reply} {r : Reply} {fault : Api.Fault}
      (h : r.Unusable effect.readsBody fault) : Fails endpoint effect got r fault
  /-- There is more to find than a page can hold. -/
  | tooMany {request : FindRequest} {r : Reply} {probe : Page R}
      (hprobe : r.decode (Page.codec R) = .ok probe) (hmany : UInt32.size ≤ probe.total.toNat) :
      Fails endpoint (.findAll request) [] r (endpoint.tooMany probe.total)

variable {endpoint : Api.Endpoint R} {effect : Effect R} {got : List Reply} {r : Reply} {fault : Api.Fault}

/-- Only what is found for a total can be too much. -/
theorem fails_iff_unusable (h : got ≠ [] ∨ ¬∃ request, effect = .findAll request) :
    effect.Fails endpoint got r fault ↔ r.Unusable effect.readsBody fault := by
  constructor
  · rintro (hr | _)
    · exact hr
    · obtain hgot | hother := h
      · exact absurd rfl hgot
      · exact absurd ⟨_, rfl⟩ hother
  · exact .unusable

theorem fails_findAll_first {request : FindRequest} :
    (findAll request : Effect R).Fails endpoint [] r fault ↔
      r.decode (Page.codec R) = .error fault ∨
        ∃ probe, r.decode (Page.codec R) = .ok probe ∧ UInt32.size ≤ probe.total.toNat ∧
          endpoint.tooMany probe.total = fault := by
  rw [Reply.decode_eq_error]
  constructor
  · rintro (hr | ⟨hprobe, hmany⟩)
    · exact .inl hr
    · exact .inr ⟨_, hprobe, hmany, rfl⟩
  · rintro (hr | ⟨probe, hprobe, hmany, rfl⟩)
    · exact .unusable hr
    · exact .tooMany hprobe hmany

theorem readsBody_eq_false {body : String} (hload : effect.isListLoad = true)
    (h : Api.decodeText? (Page.codec R) body = none) : effect.readsBody body = false := by
  cases effect with
  | findAll request => rw [readsBody, h, Option.isSome_none]
  | loadPage request => rw [readsBody, h, Option.isSome_none]
  | _ => cases hload

/-! ## Calls after some replies -/

theorem map_eq_error {α β : Type} {f : α → β} {a : Except Api.Fault α} :
    a.map f = .error fault ↔ a = .error fault := by
  cases a <;> simp [Except.map]

/-- A call that is over with the reply to its only request. -/
def IsSingle (effect : Effect R) (endpoint : Api.Endpoint R) : Prop :=
  ∃ request, ∃ read : Reply → Except Api.Fault (Change R),
    effect.call endpoint = .ask request (fun r => .answer (read r)) ∧
      ∀ r fault, read r = .error fault ↔ r.Unusable effect.readsBody fault

/-- All effects but the one that finds everything are over with one reply. -/
theorem isSingle (endpoint : Api.Endpoint R) (h : ¬∃ request, effect = .findAll request) :
    effect.IsSingle endpoint := by
  cases effect with
  | getOne id => exact ⟨_, _, rfl, fun r fault => map_eq_error.trans Reply.decode_eq_error⟩
  | findAll request => exact absurd ⟨request, rfl⟩ h
  | loadPage request => exact ⟨_, _, rfl, fun r fault => map_eq_error.trans Reply.decode_eq_error⟩
  | createOne parent body => exact ⟨_, _, rfl, fun r fault => map_eq_error.trans Reply.decode_eq_error⟩
  | updateOne record => exact ⟨_, _, rfl, fun r fault => map_eq_error.trans Reply.decode_eq_error⟩
  | deleteOne id =>
    exact ⟨_, _, rfl, fun r fault => map_eq_error.trans (map_eq_error.trans Reply.confirm_eq_error)⟩

/-- What an effect that finds everything does once it has been told the total. -/
theorem findAll_after (request : FindRequest) (r : Reply) (rs : List Reply) :
    ((findAll request : Effect R).call endpoint).after (r :: rs) =
      match r.decode (Page.codec R) with
      | .error fault => .answer (.error fault)
      | .ok probe =>
        if probe.total = 0 then .answer (.ok (.foundAll (Page.empty R)))
        else if probe.total.toNat < UInt32.size then
          Api.Dialogue.after (.ask (endpoint.pageRequest (request.toPage probe.total.toUInt32)) fun r =>
            .answer ((r.decode (Page.codec R)).map .foundAll)) rs
        else .answer (.error (endpoint.tooMany probe.total)) := by
  change Api.Dialogue.after (Api.Dialogue.map (Except.map Change.foundAll)
    (Api.Dialogue.bind _ (.answer (r.decode (Page.codec R))))) rs = _
  cases r.decode (Page.codec R) with
  | error fault => rfl
  | ok probe =>
    by_cases hnone : probe.total = 0
    · simp [Api.Dialogue.bind, Api.Dialogue.map, hnone, Except.map, Api.Dialogue.after]
    · by_cases hfits : probe.total.toNat < UInt32.size
      · simp only [Api.Dialogue.bind, Api.Dialogue.map, hnone, hfits, if_true, if_false]
        rfl
      · simp [Api.Dialogue.bind, Api.Dialogue.map, hnone, hfits, Except.map, Api.Dialogue.after]

/-- An effect that waits for a reply has waited for those before. -/
theorem Awaits.of_concat (h : effect.Awaits (got ++ [r])) : effect.Awaits got := by
  generalize hall : got ++ [r] = all at h
  cases h with
  | first => exact absurd hall (by simp)
  | @everything request r' probe =>
    obtain rfl : got = [] := by simpa using congrArg List.length hall
    exact .first _

/-- An effect that waits for a reply has a request open. -/
theorem asks_of_awaits (endpoint : Api.Endpoint R) (h : effect.Awaits got) :
    ∃ request, ∃ next : Reply → Api.Call (Change R), (effect.call endpoint).after got = .ask request next := by
  cases h with
  | first =>
    obtain ⟨request, next, hcall⟩ := Cache.call_asks effect endpoint
    exact ⟨request, next, by rw [hcall]; rfl⟩
  | @everything request r probe hprobe hsome hfits =>
    rw [findAll_after, hprobe]
    simp only [hsome, hfits, if_true, if_false]
    exact ⟨_, _, rfl⟩

/-- An effect that waits for no reply has come to its answer. -/
theorem awaits_or_answers (endpoint : Api.Endpoint R) (effect : Effect R) (got : List Reply) :
    effect.Awaits got ∨ ∃ a, (effect.call endpoint).after got = .answer a := by
  cases got with
  | nil => exact .inl (.first effect)
  | cons r rs =>
    by_cases hfind : ∃ request, effect = .findAll request
    · obtain ⟨request, rfl⟩ := hfind
      rw [findAll_after]
      cases hprobe : r.decode (Page.codec R) with
      | error fault => exact .inr ⟨_, rfl⟩
      | ok probe =>
        by_cases hnone : probe.total = 0
        · exact .inr ⟨_, if_pos hnone⟩
        · by_cases hfits : probe.total.toNat < UInt32.size
          · cases rs with
            | nil => exact .inl (.everything hprobe hnone hfits)
            | cons r' rs =>
              refine .inr ⟨(r'.decode (Page.codec R)).map .foundAll, ?_⟩
              simp only [hnone, hfits, if_true, if_false]
              rfl
          · exact .inr ⟨_, (if_neg hnone).trans (if_neg hfits)⟩
    · obtain ⟨request, read, hcall, -⟩ := isSingle endpoint hfind
      exact .inr ⟨read r, by rw [hcall]; rfl⟩

/-- A reply that an effect waits for brings its call to a fault exactly if it fails the effect. -/
theorem after_eq_error_iff (h : effect.Awaits got) :
    (effect.call endpoint).after (got ++ [r]) = .answer (.error fault) ↔
      effect.Fails endpoint got r fault := by
  cases h with
  | first =>
    by_cases hfind : ∃ request, effect = .findAll request
    · obtain ⟨request, rfl⟩ := hfind
      rw [fails_findAll_first, List.nil_append, findAll_after]
      cases r.decode (Page.codec R) with
      | error fault' => simp
      | ok probe =>
        by_cases hnone : probe.total = 0
        · simp [hnone, UInt32.size]
        · by_cases hfits : probe.total.toNat < UInt32.size
          · simp [hnone, hfits, Api.Dialogue.after, Nat.not_le_of_lt hfits]
          · simp [hnone, hfits, Nat.le_of_not_lt hfits]
    · obtain ⟨request, read, hcall, hread⟩ := isSingle endpoint hfind
      rw [fails_iff_unusable (.inr hfind), hcall, ← hread]
      exact Iff.of_eq (Api.Dialogue.answer.injEq _ _)
  | @everything request r' probe hprobe hsome hfits =>
    rw [fails_iff_unusable (.inl (List.cons_ne_nil _ _)), List.singleton_append, findAll_after, hprobe]
    simp only [hsome, hfits, if_true, if_false]
    exact (Iff.of_eq (Api.Dialogue.answer.injEq _ _)).trans (map_eq_error.trans Reply.decode_eq_error)

end Effect

/-! ## Pages with a record that cannot be read -/

/-- The items of a page as they stand in a text: under their key, or in the first place of an array. -/
def Page.itemTrees (body : String) : List Json.Tree :=
  match Json.read? body with
  | some (.object ms) =>
    match Json.Shape.under "entities" ms with
    | [.array items] => items
    | _ => []
  | some (.array (.array items :: _)) => items
  | _ => []

theorem Json.Codec.read_list_eq_none {α : Type} {codec : Json.Codec α} {m : Json.Manner} {items : List Json.Tree}
    {t : Json.Tree} (ht : t ∈ items) (hread : codec.read m t = none) :
    (Json.Codec.list codec).read m (.array items) = none := by
  change items.mapM (codec.read m) = none
  induction items with
  | nil => exact absurd ht List.not_mem_nil
  | cons t' items ih =>
    obtain rfl | ht := List.mem_cons.mp ht
    · simp [hread]
    · simp [ih ht]

/-- A page does not decode if one of its items does not. -/
theorem Page.decodeText?_eq_none {body : String} {t : Json.Tree} (ht : t ∈ Page.itemTrees body)
    (hread : (Record.codec (R := R)).read .direct t = none) : Api.decodeText? (Page.codec R) body = none := by
  rw [itemTrees] at ht
  split at ht
  · rename_i ms hbody
    split at ht
    · rename_i items hunder
      have hitems := Json.Codec.read_list_eq_none ht hread
      simp [Api.decodeText?, hbody, Page.codec, Page.shape, Json.Codec.record, Json.Shape.of, Json.Shape.both,
        Json.Shape.required, Json.Shape.field, hunder, hitems]
    · exact absurd ht List.not_mem_nil
  · rename_i items rest hbody
    have hitems := Json.Codec.read_list_eq_none ht hread
    simp [Api.decodeText?, hbody, Page.codec, Page.shape, Json.Codec.record, Json.Shape.of, Json.Shape.both,
      Json.Shape.required, Json.Shape.field, hitems]
  · exact absurd ht List.not_mem_nil

namespace Cache

/-! ## An effect among others -/

/-- The replies that some moves bring for the effect in a place. -/
def repliesTo (i : Nat) (moves : List (Move R)) : List Reply :=
  Ensemble.repliesTo i (moves.map Move.occurrence)

/-- The requests that the effect in a place sends over some moves. -/
def requestsOf (c : Cache R) (i : Nat) (moves : List (Move R)) : List Api.Request :=
  (Ensemble.alone c).requestsOf i (moves.map Move.occurrence)

theorem requestsOf_append_cons (c : Cache R) (i : Nat) (moves rest : List (Move R)) (m : Move R) :
    c.requestsOf i (moves ++ m :: rest) = c.requestsOf i moves ++
      (((c.play moves).asks? i m.occurrence).toList ++
        (c.play (moves ++ [m])).requestsOf i (rest.map Move.occurrence)) := by
  rw [requestsOf, List.map_append, Ensemble.requestsOf_append, play_concat]
  rfl

/-- What an effect does with the answer of its call. -/
def conclude (t : Ticket) (a : Except Api.Fault (Change R)) : Activity (Cache R) (Outcome R) :=
  complete ⟨t, .answer a⟩

theorem conclude_ok (t : Ticket) (change : Change R) (c : Cache R) :
    (conclude t (.ok change)).advance c = (c.settle t change, .ended (.ok (change, c.accepts t))) :=
  Activity.advance_report (c.settleReport t change) (fun _ => .finished (.ok (change, c.accepts t) : Outcome R))
    (c.settle t change)

theorem conclude_ends (t : Ticket) (a : Except Api.Fault (Change R)) (c : Cache R) :
    ∃ o, ((conclude t a).advance c).2 = .ended o := by
  cases a with
  | error fault => exact ⟨_, rfl⟩
  | ok change => exact ⟨_, congrArg Prod.snd (conclude_ok t change c)⟩

/-- An effect has come as far as the replies for it have brought its call. -/
theorem stands_after (c : Cache R) (before later : List (Move R)) (effect : Effect R) :
    ∃ t p, (c.play (before ++ .issue effect :: later)).parties[issued before]? = some p ∧
      p.Converses (conclude t) ((effect.call c.endpoint).after (repliesTo (issued before) later)) := by
  have hplay : c.play (before ++ .issue effect :: later) =
      ((c.play before).step (.enters (perform effect))).run (later.map Move.occurrence) := by
    rw [play, List.map_append, Ensemble.run_append]
    rfl
  have hendpoint : (c.play before).state.endpoint = c.endpoint := (c.le_play before).1
  have henter := (Ensemble.entered (c.play before) (a := perform effect) rfl).2.1
  rw [length_play] at henter
  rw [hplay, ← hendpoint]
  exact ⟨_, Ensemble.converses_run (conclude_ends _) ⟨_, henter, _, rfl⟩ _⟩

variable {c : Cache R} {before later : List (Move R)} {effect : Effect R}

/-- A reply that an effect waits for brings it on by that reply. -/
theorem play_awaited (h : effect.Awaits (repliesTo (issued before) later)) (r : Reply) :
    ∃ t s q,
      ((Activity.ofDialogue ((effect.call c.endpoint).after (repliesTo (issued before) later ++ [r]))).bind
        (conclude t)).advance (c.play (before ++ .issue effect :: later)).state = (s, q) ∧
      (c.play (before ++ .issue effect :: later ++ [.reply (issued before) r])).state = s ∧
      (c.play (before ++ .issue effect :: later ++ [.reply (issued before) r])).parties[issued before]? = some q ∧
      (c.play (before ++ .issue effect :: later)).asks? (issued before) (.reaches (issued before) (.reply r)) =
        q.request? ∧
      (c.play (before ++ .issue effect :: later)).ending? (.reaches (issued before) (.reply r)) =
        q.result?.map (issued before, ·) := by
  obtain ⟨t, _, hp, s, rfl⟩ := c.stands_after before later effect
  obtain ⟨request, next, hcall⟩ := Effect.asks_of_awaits c.endpoint h
  rw [hcall] at hp
  have hon : ((((Activity.ofDialogue (.ask request next)).bind (conclude t)).advance s).2).onward? (.reply r) =
      some ((Activity.ofDialogue (next r)).bind (conclude t)) := rfl
  have hadvance := Activity.advance_ofDialogue (next r) (conclude t)
    (c.play (before ++ .issue effect :: later)).state
  rw [Api.Dialogue.after_append, hcall, play_concat]
  exact ⟨t, _, _, rfl, Ensemble.reached hp hon hadvance⟩

/-- An effect has a request open exactly if it waits for a reply. -/
theorem has_request_iff (c : Cache R) (before later : List (Move R)) (effect : Effect R) :
    (∃ request, (c.play (before ++ .issue effect :: later)).parties[issued before]?.bind Party.request? =
      some request) ↔ effect.Awaits (repliesTo (issued before) later) := by
  obtain ⟨t, p, hp, s, rfl⟩ := c.stands_after before later effect
  rw [hp, Option.bind_some]
  obtain hawaits | ⟨a, hover⟩ := Effect.awaits_or_answers c.endpoint effect (repliesTo (issued before) later)
  · obtain ⟨request, next, hcall⟩ := Effect.asks_of_awaits c.endpoint hawaits
    rw [hcall]
    exact iff_of_true ⟨request, rfl⟩ hawaits
  · obtain ⟨o, ho⟩ := conclude_ends t a s
    rw [hover]
    refine iff_of_false ?_ fun hawaits => ?_
    · rintro ⟨request, h⟩
      cases (congrArg Party.request? ho).symm.trans h
    · obtain ⟨request, next, hcall⟩ := Effect.asks_of_awaits c.endpoint hawaits
      cases hcall.symm.trans hover

/-- A reply after which an effect waits for another one leaves the cache as it is. -/
theorem state_of_awaits {r : Reply} (h : effect.Awaits (repliesTo (issued before) later ++ [r])) :
    (c.play (before ++ .issue effect :: later ++ [.reply (issued before) r])).state =
      (c.play (before ++ .issue effect :: later)).state := by
  obtain ⟨t, s, q, hadvance, hstate, -⟩ := play_awaited (c := c) h.of_concat r
  obtain ⟨request, next, hcall⟩ := Effect.asks_of_awaits c.endpoint h
  rw [hcall] at hadvance
  rw [hstate, ← (Prod.mk.inj hadvance).1]

/-- A failing reply ends its effect with the fault and leaves the cache as it is. -/
theorem ending_of_fails (h : effect.Awaits (repliesTo (issued before) later)) {r : Reply} {fault : Api.Fault}
    (hfails : effect.Fails c.endpoint (repliesTo (issued before) later) r fault) :
    (c.play (before ++ .issue effect :: later)).ending? (.reaches (issued before) (.reply r)) =
        some (issued before, .error (.api fault)) ∧
      (c.play (before ++ .issue effect :: later ++ [.reply (issued before) r])).state =
        (c.play (before ++ .issue effect :: later)).state ∧
      ∀ rest, c.requestsOf (issued before) (before ++ .issue effect :: later ++ .reply (issued before) r :: rest) =
        c.requestsOf (issued before) (before ++ .issue effect :: later) := by
  obtain ⟨t, s, q, hadvance, hstate, hparty, hasks, hending⟩ := play_awaited (c := c) h r
  rw [(Effect.after_eq_error_iff h).mpr hfails] at hadvance
  obtain ⟨rfl, rfl⟩ := Prod.mk.inj hadvance
  refine ⟨hending, hstate, fun rest => ?_⟩
  rw [requestsOf_append_cons, Move.occurrence, hasks, Ensemble.requestsOf_of_ended hparty]
  exact List.append_nil _

/-- Nothing but a failing reply makes an effect fail. -/
theorem fails_of_ending (h : effect.Awaits (repliesTo (issued before) later)) {r : Reply} {e : CacheFault}
    (hending : (c.play (before ++ .issue effect :: later)).ending? (.reaches (issued before) (.reply r)) =
      some (issued before, .error e)) :
    ∃ fault, e = .api fault ∧ effect.Fails c.endpoint (repliesTo (issued before) later) r fault := by
  obtain ⟨t, s, q, hadvance, -, -, -, hending'⟩ := play_awaited (c := c) h r
  rw [hending'] at hending
  obtain ⟨request, next, hcall⟩ | ⟨fault | change, hcall⟩ := (effect.call c.endpoint).after_cases
    (repliesTo (issued before) later ++ [r])
  · rw [hcall] at hadvance
    obtain ⟨-, rfl⟩ := Prod.mk.inj hadvance
    cases hending
  · rw [hcall] at hadvance
    obtain ⟨-, rfl⟩ := Prod.mk.inj hadvance
    cases hending
    exact ⟨fault, rfl, (Effect.after_eq_error_iff h).mp hcall⟩
  · rw [hcall] at hadvance
    obtain ⟨-, rfl⟩ := Prod.mk.inj ((conclude_ok t change _).symm.trans hadvance)
    cases hending

/-! ## Main statement -/

/-- Whatever the state of a cache and whatever else is at work on it, an effect waits for a reply as `Awaits` says,
and the issue and the replies that leave it waiting do not touch the listing.  A reply that it waits for ends it
with a fault exactly if `Fails` says so.  The fault is then what the effect comes to, the cache is as it was just
before the reply, the count of its publications included, and the effect sends nothing any more.  One record
that cannot be read makes a whole page fail. -/
theorem failure_leaves_no_trace (c : Cache R) (before later : List (Move R)) (effect : Effect R) (r : Reply) :
    let i := issued before
    let moves := before ++ .issue effect :: later
    let got := repliesTo i later
    let old := c.play moves
    let new := c.play (moves ++ [.reply i r])
    let ending := old.ending? (.reaches i (.reply r))
    (c.play (before ++ [.issue effect])).state.state = (c.play before).state.state ∧
    ((∃ request, old.parties[i]?.bind Party.request? = some request) ↔ effect.Awaits got) ∧
    (effect.Awaits (got ++ [r]) → new.state = old.state) ∧
    (effect.Awaits got →
      (∀ e, ending = some (i, .error e) ↔ ∃ fault, e = .api fault ∧ effect.Fails c.endpoint got r fault) ∧
      ∀ fault, effect.Fails c.endpoint got r fault →
        ending = some (i, .error (.api fault)) ∧ new.state = old.state ∧
          ∀ rest, c.requestsOf i (moves ++ .reply i r :: rest) = c.requestsOf i moves) ∧
    ∀ response, effect.isListLoad = true → r = .response response → 200 ≤ response.status →
      response.status ≤ 299 →
      (∃ t ∈ Page.itemTrees response.body, (Record.codec (R := R)).read .direct t = none) →
        effect.Fails c.endpoint got r .badBody := by
  intro i moves got old new ending
  refine ⟨?_, c.has_request_iff before later effect, state_of_awaits, fun h => ?_, ?_⟩
  · rw [play_concat]
    change ((perform effect).advance (c.play before).state).1.state = _
    rw [(perform_advance effect (c.play before).state).1]
    rfl
  · refine ⟨fun e => ⟨fails_of_ending h, ?_⟩, fun fault hfails => ending_of_fails h hfails⟩
    rintro ⟨fault, rfl, hfails⟩
    exact (ending_of_fails h hfails).1
  · rintro response hload rfl hlow hhigh ⟨t, ht, hread⟩
    have hbody := Effect.readsBody_eq_false hload (Page.decodeText?_eq_none ht hread)
    exact .unusable (.body response hlow hhigh hbody)

/-- The second of two projects has no identifier: nothing is found, and the list stays empty. -/
theorem unreadable_record_fails_page :
    let c : Cache Project := .new (Api.Client.projects ⟨"http://api.test"⟩)
    let effect : Effect Project := .findAll ⟨[], none, none⟩
    let count : Reply := .response ⟨200, "\x7b\"entities\":[],\"total\":2\x7d"⟩
    let page : Reply := .response ⟨200,
      "\x7b\"entities\":[\x7b\"id\":\"00000000-0000-0000-0000-000000000001\",\"name\":\"a\"\x7d," ++
      "\x7b\"name\":\"b\"\x7d],\"total\":2\x7d"⟩
    let moves : List (Move Project) := [.issue effect, .dispatch (.select none), .reply 0 count]
    effect.Awaits (repliesTo 0 moves) ∧
      (c.play moves).ending? (.reaches 0 (.reply page)) = some (0, .error (.api .badBody)) ∧
      (c.play (moves ++ [.reply 0 page])).state = (c.play moves).state ∧
      ∀ rest, c.requestsOf 0 (moves ++ .reply 0 page :: rest) = c.requestsOf 0 moves := by
  intro c effect count page moves
  have hawaits : effect.Awaits (repliesTo 0 moves) := by
    have hprobe : count.decode (Page.codec Project) = .ok ⟨[], 2⟩ := by decide +kernel
    exact .everything hprobe (by decide) (by decide)
  obtain ⟨-, -, -, hturn, hpage⟩ :=
    failure_leaves_no_trace c [] [.dispatch (.select none), .reply 0 count] effect page
  have hfails := hpage _ rfl rfl (by decide) (by decide) (by decide +kernel)
  exact ⟨hawaits, (hturn hawaits).2 _ hfails⟩

end Cache

end RunWatch
