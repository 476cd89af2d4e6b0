import RunWatch.Proofs.Api.Exchanges
import RunWatch.Proofs.Api.Queries

/-!
# Finding everything

A search for everything sends a probe, which fetches no record but tells the total, and then at most one further request
for that many records.  Both are `Endpoint.finding` for different counts: what is selected (`Query.selection`) does not
depend on the count, so the probe counts just the records that are fetched.  How a search goes on is a matter of the
reply to its probe (`Endpoint.onProbe`), and `Reply.left?` is the count that it leaves to fetch.
-/

namespace RunWatch.Api

/-- What a search selects by: its order, unless that is empty, and its filters. -/
def Query.selection (r : FindRequest) : Query :=
  let order := (r.sort.filter fun s => !s.isEmpty).map fun s => ("sort", Text.upper s)
  order.toList ++ r.filters.flatMap fun f => ofFilter f.1 f.2

theorem Query.selection_eq (r : FindRequest) : selection r = (order? r.sort).toList ++ allPairs r.filters := by
  have hgiven (s : String) : (!s.isEmpty) = decide (s ≠ "") := by
    by_cases h : s = ""
    · simp [h]
    · simp [h]
  simp only [selection, order?, allPairs, hgiven, ofFilter_eq]

theorem Query.ofPage_toPage (r : FindRequest) (count : UInt32) :
    ofPage (r.toPage count) = ("page", "1") :: ("count", toString count.toNat) :: selection r := by
  have hpage : (r.toPage count).page.toNat = 0 := UInt32.toNat_zero
  have hfirst : toString (0 + 1) = "1" := rfl
  rw [ofPage_eq, selection_eq, hpage, hfirst]
  rfl

/-- How many records the reply to a probe leaves to fetch: all of them, if there are any and they fit on a page. -/
def Reply.left? (R : Type) [Record R] (reply : Reply) : Option Nat :=
  match reply.decode (Page.codec R) with
  | .error _ => none
  | .ok probe => if 0 < probe.total.toNat ∧ probe.total.toNat < UInt32.size then some probe.total.toNat else none

namespace Endpoint

variable {R : Type}

/-- The request for the first so many records of a search. -/
def finding (e : Endpoint R) (r : FindRequest) (count : Nat) : Request :=
  ⟨.get, e.route.collectionUrl e.root r.parent, ("page", "1") :: ("count", toString count) :: Query.selection r, none⟩

theorem pageRequest_toPage (e : Endpoint R) (r : FindRequest) (count : UInt32) :
    e.pageRequest (r.toPage count) = e.finding r count.toNat := by
  rw [pageRequest, Query.ofPage_toPage]
  rfl

variable [Record R]

/-- How a search goes on from the reply to its probe. -/
def onProbe (e : Endpoint R) (r : FindRequest) (first : Reply) : Call (Page R) :=
  match first.decode (Page.codec R) with
  | .error fault => .answer (.error fault)
  | .ok probe =>
    if probe.total.toNat = 0 then .answer (.ok (Page.empty R))
    else if probe.total.toNat < UInt32.size then exchange (Page.codec R) (e.finding r probe.total.toNat)
    else .answer (.error (e.tooMany probe.total))

theorem findAll_eq (e : Endpoint R) (r : FindRequest) : e.findAll r = .ask (e.finding r 0) (e.onProbe r) := by
  have hprobe : e.pageRequest (r.toPage 0) = e.finding r 0 := e.pageRequest_toPage r 0
  rw [← hprobe]
  refine congrArg (Dialogue.ask (e.pageRequest (r.toPage 0))) (funext fun first => ?_)
  rw [onProbe]
  change Dialogue.bind _ (.answer (first.decode (Page.codec R))) = _
  cases first.decode (Page.codec R) with
  | error fault => rfl
  | ok probe =>
    have hnone : probe.total = 0 ↔ probe.total.toNat = 0 := UInt64.toNat_inj.symm
    simp only [Dialogue.bind, hnone]
    by_cases hfits : probe.total.toNat < UInt32.size
    · have hcount : probe.total.toUInt32.toNat = probe.total.toNat := Nat.mod_eq_of_lt hfits
      rw [getPage, pageRequest_toPage, hcount]
    · rw [if_neg hfits, if_neg hfits]

/-- Once the reply to the probe has left nothing to fetch, a search is over. -/
theorem onProbe_of_left?_eq_none (e : Endpoint R) (r : FindRequest) {first : Reply} (h : first.left? R = none) :
    ∃ answer, e.onProbe r first = .answer answer := by
  rw [Reply.left?] at h
  rw [onProbe]
  cases hfirst : first.decode (Page.codec R) with
  | error fault => exact ⟨_, rfl⟩
  | ok probe =>
    simp only [hfirst, ite_eq_right_iff, reduceCtorEq, imp_false, not_and, Nat.not_lt] at h
    by_cases hnone : probe.total.toNat = 0
    · exact ⟨_, if_pos hnone⟩
    · have hmany : ¬probe.total.toNat < UInt32.size := Nat.not_lt.mpr (h (Nat.pos_of_ne_zero hnone))
      exact ⟨_, (if_neg hnone).trans (if_neg hmany)⟩

/-- What is left to fetch is fetched with one request. -/
theorem onProbe_of_left?_eq_some (e : Endpoint R) (r : FindRequest) {first : Reply} {count : Nat}
    (h : first.left? R = some count) :
    0 < count ∧ e.onProbe r first = exchange (Page.codec R) (e.finding r count) := by
  rw [Reply.left?] at h
  rw [onProbe]
  cases hfirst : first.decode (Page.codec R) with
  | error fault => simp [hfirst] at h
  | ok probe =>
    simp only [hfirst, Option.ite_none_right_eq_some, Option.some.injEq] at h
    obtain ⟨⟨hsome, hfits⟩, rfl⟩ := h
    exact ⟨hsome, (if_neg (Nat.ne_of_gt hsome)).trans (if_pos hfits)⟩

/-- A search for everything begins with a probe, the request for its first page with a count of 0.  The reply to it
either cannot be used, or tells that there is nothing or more than a page can hold, and then the search is over without
a further request; or the search sends the probe once more with the total in place of the count, and comes to whatever
page that brings. -/
theorem found_with_probe_and_fetch (e : Endpoint R) (r : FindRequest) (first second : Reply) (more : List Reply) :
    let call := e.findAll r
    let probe := e.pageRequest (r.toPage 0)
    (probe.method = .get ∧ probe.url = e.route.collectionUrl e.root r.parent ∧
      probe.query = ("page", "1") :: ("count", "0") :: Query.selection r ∧ call.asked [] = [probe]) ∧
    (∀ fault, first.decode (Page.codec R) = .error fault →
      call.asked (first :: more) = [probe] ∧ call.after (first :: more) = .answer (.error fault)) ∧
    ∀ counted, first.decode (Page.codec R) = .ok counted →
      let total := counted.total.toNat
      (total = 0 → call.asked (first :: more) = [probe] ∧ call.after (first :: more) = .answer (.ok ⟨[], 0⟩)) ∧
      (UInt32.size ≤ total → call.asked (first :: more) = [probe] ∧
        call.after (first :: more) = .answer (.error (.invalid
          (toString total ++ " " ++ e.route.kind.segment ++ " entities exceed a single page")))) ∧
      (0 < total → total < UInt32.size →
        let fetch := { probe with query := ("page", "1") :: ("count", toString total) :: Query.selection r }
        call.asked (first :: more) = [probe, fetch] ∧
          call.after (first :: second :: more) = .answer (second.decode (Page.codec R))) := by
  intro call probe
  have hprobe : probe = e.finding r 0 := e.pageRequest_toPage r 0
  have hcall : call = .ask probe (e.onProbe r) := hprobe ▸ e.findAll_eq r
  -- Wherever the reply to the probe brings an answer, nothing else is sent.
  have hover : ∀ answer, e.onProbe r first = .answer answer →
      call.asked (first :: more) = [probe] ∧ call.after (first :: more) = .answer answer := by
    intro answer h
    rw [hcall, Dialogue.asked, Dialogue.after, h]
    exact ⟨rfl, rfl⟩
  refine ⟨⟨rfl, rfl, congrArg Request.query hprobe, by rw [hcall]; rfl⟩, fun fault h => ?_, fun counted h => ?_⟩
  · exact hover _ (by rw [onProbe, h])
  · intro total
    have hnext : e.onProbe r first = if total = 0 then .answer (.ok (Page.empty R))
        else if total < UInt32.size then exchange (Page.codec R) (e.finding r total)
        else .answer (.error (e.tooMany counted.total)) := by
      rw [onProbe, h]
    refine ⟨fun hnone => ?_, fun hmany => ?_, fun hsome hfits => ?_⟩
    · rw [if_pos hnone] at hnext
      exact hover _ hnext
    · have hsome : total ≠ 0 := fun hnone => absurd (hnone ▸ hmany) (by decide)
      rw [if_neg hsome, if_neg (Nat.not_lt.mpr hmany)] at hnext
      exact hover _ hnext
    · intro fetch
      have hfetch : fetch = e.finding r total := by
        change { probe with query := _ } = _
        rw [hprobe]
        rfl
      rw [if_neg (Nat.ne_of_gt hsome), if_pos hfits, ← hfetch] at hnext
      rw [hcall, Dialogue.asked, Dialogue.after, hnext, asked_exchange]
      exact ⟨rfl, rfl⟩

/-- The order and the filters of a search go with both requests, also a filter that is named like the count. -/
theorem failed_components_found :
    let e := (Client.mk "http://api.test").components
    let r : FindRequest :=
      ⟨[("count", .string "7"), ("status", .array [.string "FAILED", .null, .string "MISSING"])], some "desc", none⟩
    let told (total : String) : Reply := .response ⟨200, "\x7b\"entities\":[],\"total\":" ++ total ++ "\x7d"⟩
    let asking (count : String) : Request :=
      ⟨.get, "http://api.test/components", [("page", "1"), ("count", count), ("sort", "DESC"), ("count", "7"),
        ("status", "FAILED"), ("status", "MISSING")], none⟩
    let call := e.findAll r
    (call.asked [told "3"] = [asking "0", asking "3"] ∧ call.after [told "3", told "2"] = .answer (.ok ⟨[], 2⟩)) ∧
      (call.asked [told "0"] = [asking "0"] ∧ call.after [told "0"] = .answer (.ok ⟨[], 0⟩)) ∧
      (call.asked [told "4294967296"] = [asking "0"] ∧ call.after [told "4294967296"] =
        .answer (.error (.invalid "4294967296 components entities exceed a single page"))) ∧
      call.asked [told "-1"] = [asking "0"] ∧ call.after [told "-1"] = .answer (.error .badBody) := by
  intro e r told asking call
  have hprobe : e.pageRequest (r.toPage 0) = asking "0" := by decide +kernel
  have hselection : Query.selection r =
      [("sort", "DESC"), ("count", "7"), ("status", "FAILED"), ("status", "MISSING")] := by decide +kernel
  have hthree : (told "3").decode (Page.codec Component) = .ok ⟨[], 3⟩ := by decide +kernel
  have htwo : (told "2").decode (Page.codec Component) = .ok ⟨[], 2⟩ := by decide +kernel
  have hnone : (told "0").decode (Page.codec Component) = .ok ⟨[], 0⟩ := by decide +kernel
  have hmany : (told "4294967296").decode (Page.codec Component) = .ok ⟨[], 4294967296⟩ := by decide +kernel
  have hbad : (told "-1").decode (Page.codec Component) = .error .badBody := by decide +kernel
  have hfound := fun first => found_with_probe_and_fetch e r first (told "2") []
  simp only [hprobe, hselection] at hfound
  refine ⟨?_, ?_, ?_, ?_⟩
  · obtain ⟨hasked, hafter⟩ := ((hfound (told "3")).2.2 _ hthree).2.2 (by decide) (by decide)
    exact ⟨hasked, hafter.trans (congrArg Dialogue.answer htwo)⟩
  · exact ((hfound (told "0")).2.2 _ hnone).1 rfl
  · exact ((hfound (told "4294967296")).2.2 _ hmany).2.1 (by decide)
  · exact (hfound (told "-1")).2.1 _ hbad

end Endpoint

end RunWatch.Api
