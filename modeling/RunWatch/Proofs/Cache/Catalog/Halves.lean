import RunWatch.Proofs.Cache.Catalog.Moves
import RunWatch.Proofs.Cache.Channel
import RunWatch.Proofs.Ensemble.Parts

/-!
# The two halves of a catalog

A catalog is two things at once, a list of components and a search, which share nothing but the address of the platform.
The search is a guarded channel (`searching`), so what it has gathered is a fold over the pages that count.  The halves
are parts of one history (`half`): played alone, each of them comes to the same as it does among the moves of the other,
and its effects come to the same results (`list_apart`, `search_apart`).
-/

namespace RunWatch

namespace Catalog

/-! ## Halves -/

namespace Move

/-- Whether a move other than a reply is about the list of components. -/
def inList : Move → Bool
  | issue _ | update _ _ | dispatch _ | reset => true
  | _ => false

/-- Whether a move other than a reply is about the search. -/
def inSearch : Move → Bool
  | search _ | clearSearch => true
  | _ => false

/-- What a move is for one half of the catalog; a reply belongs where the effect does that it is for. -/
def inHalf (belongs : Move → Bool) (roll : List Bool) : Move → Option Move
  | reply i r => (placeAmong roll i).map (reply · r)
  | m => if belongs m then some m else none

theorem inHalf_occurrence (belongs : Move → Bool) (roll : List Bool) (m : Move) :
    (m.inHalf belongs roll).map occurrence = m.occurrence.inPart (belongs m) roll := by
  cases m with
  | reply i r => exact Option.map_map _ _ _
  | _ =>
    simp only [inHalf, occurrence, Occurrence.inPart]
    split <;> rfl

end Move

/-- The moves of one half, as if there were no other. -/
def half (belongs : Move → Bool) (moves : List Move) : List Move :=
  partOf Move.occurrence belongs (Move.inHalf belongs) [] moves

/-- Which of the effects that some moves issue belong to one half. -/
def halfRoll (belongs : Move → Bool) (moves : List Move) : List Bool :=
  rollOf Move.occurrence belongs moves

/-! ## The list -/

/-- Two catalogs with the same list of components. -/
structure SameList (c d : Catalog) : Prop where
  components : c.components = d.components
  schedules : c.schedules = d.schedules

/-- A change that leaves the list of components alone. -/
def KeepsList (change : Catalog → Catalog) : Prop :=
  ∀ c, SameList (change c) c

theorem KeepsList.unnoticed {change : Catalog → Catalog} (h : KeepsList change) : Unnoticed SameList change :=
  fun c _ hcd => ⟨(h c).components.trans hcd.components, (h c).schedules.trans hcd.schedules⟩

theorem keepsList_settleSearch (t : Ticket) (request : PageRequest) (page : Page Component) :
    KeepsList fun c => c.settleSearch t request page := by
  intro c
  change SameList (c.settleSearch t request page) c
  unfold settleSearch
  split
  · exact ⟨rfl, rfl⟩
  · exact ⟨rfl, rfl⟩

/-- Whatever is not about the list leaves it alone. -/
theorem makes_keepsList {m : Move} (h : m.inList = false) : m.occurrence.Makes KeepsList := by
  cases m with
  | search request =>
    have heach : (performSearch request).Each KeepsList :=
      each_performSearch (fun c => ⟨rfl, rfl⟩) fun t page => keepsList_settleSearch t request page
    exact heach.bind fun _ => trivial
  | reply i r => trivial
  | clearSearch => exact fun c => ⟨rfl, rfl⟩
  | _ => cases h

theorem alike_tagged {rel : Catalog → Catalog → Prop} {α : Type} (tag : α → Outcome) {a : Activity Catalog α}
    (h : a.Alike rel Eq a) : (tagged tag a).Alike rel Eq (tagged tag a) :=
  h.bind fun _ _ hxy => .finished (congrArg tag hxy)

/-- Work on the list of components is the same on both. -/
theorem alike_onComponents {α : Type} (a : Activity (Cache Component) α) :
    (onComponents a).Alike SameList Eq (onComponents a) :=
  (Activity.Alike.refl a).within (fun _ _ h => h.components) fun _ _ _ _ h hxy => ⟨hxy, h.schedules⟩

theorem alike_followPlan (planned : Except CacheFault (Flight Component)) :
    (followPlan planned).Alike SameList Eq (followPlan planned) := by
  cases planned with
  | error fault => exact .finished rfl
  | ok flight =>
    refine (Activity.Alike.ofDialogue flight.dialogue).bind ?_
    rintro (fault | change) _ rfl
    · exact .finished rfl
    · refine (Activity.Alike.transact Eq fun c d h => ?_).bind ?_
      · refine ⟨⟨?_, h.schedules⟩, ?_⟩
        · exact congrArg (·.settle flight.ticket change) h.components
        · exact congrArg (·.settleReport flight.ticket change ++ _) h.components
      · rintro entries _ rfl
        exact (Activity.Alike.report entries).bind fun _ _ _ => .finished rfl

theorem issueUpdate_of_sameList {c d : Catalog} (h : SameList c d) (component : Component)
    (drafts : List ScheduleDraft) : c.issueUpdate component drafts = d.issueUpdate component drafts := by
  unfold issueUpdate updateCall
  rw [h.components, h.schedules]

/-- Whatever is about the list does the same to both. -/
theorem respects_sameList {m : Move} (h : m.inList = true) : m.occurrence.Respects SameList := by
  cases m with
  | issue effect => exact alike_tagged _ (alike_onComponents _)
  | update component drafts =>
    refine alike_tagged _ ?_
    rw [performUpdate_eq]
    refine (Activity.Alike.transact Eq fun c d h => ⟨h, issueUpdate_of_sameList h component drafts⟩).bind ?_
    rintro planned _ rfl
    exact alike_followPlan planned
  | dispatch change => exact fun c d h => ⟨congrArg (·.dispatch change) h.components, h.schedules⟩
  | reset => exact fun c d h => ⟨congrArg Cache.reset h.components, h.schedules⟩
  | _ => cases h

/-- The list comes to the same, and so do its effects, if nothing is ever searched for. -/
theorem list_apart (c : Catalog) (moves : List Move) :
    SameList (c.play moves).state (c.play (half Move.inList moves)).state ∧
      among (halfRoll Move.inList moves) ((c.play moves).parties.map Party.sight) =
        (c.play (half Move.inList moves)).parties.map Party.sight :=
  Ensemble.parted_moves (Move.inHalf_occurrence Move.inList) (fun _ h => respects_sameList h)
    (fun _ h => (makes_keepsList h).mono fun _ hchange => hchange.unnoticed) ⟨rfl, rfl⟩ moves

/-! ## The search -/

/-- Two catalogs with the same search. -/
structure SameSearch (c d : Catalog) : Prop where
  search : c.search = d.search
  desk : c.searchDesk = d.searchDesk
  endpoint : c.components.endpoint = d.components.endpoint

/-- A change that leaves the search alone. -/
def KeepsSearch (change : Catalog → Catalog) : Prop :=
  ∀ c, SameSearch (change c) c

theorem KeepsSearch.unnoticed {change : Catalog → Catalog} (h : KeepsSearch change) : Unnoticed SameSearch change :=
  fun c _ hcd => ⟨(h c).search.trans hcd.search, (h c).desk.trans hcd.desk, (h c).endpoint.trans hcd.endpoint⟩

/-- Whatever is not about the search leaves it alone. -/
theorem makes_keepsSearch {m : Move} (h : m.inSearch = false) : m.occurrence.Makes KeepsSearch := by
  cases m with
  | issue effect =>
    have heach : (onComponents (Cache.perform effect)).Each KeepsSearch :=
      (Cache.each_keepsEpoch effect).within fun change hchange c => ⟨rfl, rfl, (hchange c.components).1⟩
    exact heach.bind fun _ => trivial
  | update component drafts =>
    have heach : (performUpdate component drafts).Each KeepsSearch :=
      each_performUpdate (fun c => ⟨rfl, rfl, rfl⟩)
        (fun t change c => ⟨rfl, rfl, (Cache.keepsEpoch_settle t change c.components).1⟩) component drafts
    exact heach.bind fun _ => trivial
  | reply i r => trivial
  | dispatch change => exact fun c => ⟨rfl, rfl, rfl⟩
  | reset => exact fun c => ⟨rfl, rfl, rfl⟩
  | _ => cases h

theorem sameSearch_settleSearch {c d : Catalog} (h : SameSearch c d) (t : Ticket) (request : PageRequest)
    (page : Page Component) : SameSearch (c.settleSearch t request page) (d.settleSearch t request page) := by
  have hcurrent : c.searchDesk.isCurrent t = d.searchDesk.isCurrent t := congrArg (·.isCurrent t) h.desk
  unfold settleSearch
  rw [hcurrent]
  split
  · exact ⟨congrArg (fun s => s.publish (s.value.merge page request)) h.search, h.desk, h.endpoint⟩
  · exact h

theorem alike_performSearch (request : PageRequest) :
    (performSearch request).Alike SameSearch Eq (performSearch request) := by
  refine (Activity.Alike.transact Eq fun c d h => ?_).bind ?_
  · refine ⟨⟨h.search, congrArg (·.list.1) h.desk, h.endpoint⟩, ?_⟩
    unfold issueSearch
    rw [h.desk, h.endpoint]
  · rintro flight _ rfl
    refine (Activity.Alike.ofDialogue flight.dialogue).bind ?_
    rintro (fault | page) _ rfl
    · exact .finished rfl
    · exact .touching (fun c d h => sameSearch_settleSearch h _ _ page) fun _ _ _ => .finished rfl

/-- Whatever is about the search does the same to both. -/
theorem respects_sameSearch {m : Move} (h : m.inSearch = true) : m.occurrence.Respects SameSearch := by
  cases m with
  | search request => exact alike_tagged _ (alike_performSearch request)
  | clearSearch =>
    exact fun c d h => ⟨congrArg (·.publish .empty) h.search, congrArg TicketDesk.invalidate h.desk, h.endpoint⟩
  | _ => cases h

/-- The search comes to the same, and so do its pages, if nothing ever happens to the list. -/
theorem search_apart (c : Catalog) (moves : List Move) :
    SameSearch (c.play moves).state (c.play (half Move.inSearch moves)).state ∧
      among (halfRoll Move.inSearch moves) ((c.play moves).parties.map Party.sight) =
        (c.play (half Move.inSearch moves)).parties.map Party.sight :=
  Ensemble.parted_moves (Move.inHalf_occurrence Move.inSearch) (fun _ h => respects_sameSearch h)
    (fun _ h => (makes_keepsSearch h).mono fun _ hchange => hchange.unnoticed) ⟨rfl, rfl, rfl⟩ moves

/-! ## What the search has gathered -/

/-- The search as a channel: its own desk guards it, and the pages that come are merged. -/
def searchChannel : Channel Catalog Outcome PageRequest (Page Component) Search where
  desk := Catalog.searchDesk
  shown := Catalog.search
  empty := .empty
  join request page s := s.merge page request
  fits _ _ := True
  settle t request page c := c.settleSearch t request page
  failed fault := .searched (.error fault)
  done page := .searched (.ok page)
  settle_desk t request page c := by
    unfold settleSearch
    split <;> rfl
  settle_shown t request page c := by
    unfold settleSearch
    split <;> rfl
  done_injective page page' h := Except.ok.inj (Outcome.searched.inj h)
  done_ne_failed page fault h := by cases Outcome.searched.inj h

theorem working_completeSearch (flight : SearchFlight) :
    searchChannel.Working flight.ticket flight.request (tagged .searched (completeSearch flight)) := by
  refine Activity.settles_ofDialogue ?_ flight.dialogue
  rintro (fault | page)
  · exact .failed _
  · exact .settled trivial

namespace Move

/-- The page that a move asks for. -/
def searches? : Move → Option PageRequest
  | search request => some request
  | _ => none

/-- Whether a move forgets what the search has gathered. -/
def clears : Move → Bool
  | clearSearch => true
  | _ => false

end Move

/-- What the moves of a catalog do with its search. -/
def searching : searchChannel.Use Move where
  occurrence := Move.occurrence
  asks? := Move.searches?
  clears := Move.clears
  asking m request h := by
    cases m with
    | search request' =>
      obtain rfl := Option.some.inj h
      refine ⟨_, rfl, fun c => ⟨rfl, rfl, rfl, ?_⟩⟩
      exact searchChannel.working_steady _ _ _ (working_completeSearch (c.issueSearch request').2) _
    | _ => cases h
  clearing m h := by
    cases m with
    | clearSearch => exact ⟨_, rfl, fun c => ⟨rfl, rfl⟩⟩
    | _ => cases h
  idling m hasks hclears := by
    refine (makes_keepsSearch ?_).mono fun change hchange c => ⟨(hchange c).desk, (hchange c).search⟩
    cases m with
    | search request => cases hasks
    | clearSearch => cases hclears
    | _ => rfl

/-- A page of a search counts after some moves.  It is what the search was answered with, before anything else was
searched for and before the search was cleared; and it has not been cleared since. -/
def PageCounts (c : Catalog) (moves : List Move) (i : Nat) (request : PageRequest) (page : Page Component) : Prop :=
  ∃ before between r rest, moves = before ++ .search request :: between ++ .reply i r :: rest ∧ issued before = i ∧
    (c.play (before ++ .search request :: between)).ending? (Move.reply i r).occurrence =
      some (i, .searched (.ok page)) ∧
    (∀ m ∈ between, (∀ other, m ≠ .search other) ∧ m ≠ .clearSearch) ∧ Move.clearSearch ∉ rest

theorem undisturbed_iff {moves : List Move} :
    searching.Undisturbed moves ↔ ∀ m ∈ moves, (∀ request, m ≠ .search request) ∧ m ≠ .clearSearch := by
  refine forall₂_congr fun m _ => ?_
  cases m <;> simp [searching, Move.searches?, Move.clears]

theorem clears_eq_false_iff {moves : List Move} :
    (∀ m ∈ moves, searching.clears m = false) ↔ Move.clearSearch ∉ moves := by
  constructor
  · exact fun h hmem => Bool.noConfusion (h _ hmem)
  · intro h m hm
    cases m with
    | clearSearch => exact absurd hm h
    | _ => rfl

theorem pageCounts_iff {c : Catalog} {moves : List Move} {i : Nat} {request : PageRequest} {page : Page Component} :
    c.PageCounts moves i request page ↔ searching.Landed c moves (i, request, page) := by
  constructor
  · rintro ⟨before, between, r, rest, hmoves, hi, hending, hbetween, hrest⟩
    exact ⟨before ++ .search request :: between, .reply i r, rest, hmoves,
      ⟨before, .search request, between, rfl, hi, rfl, hending, undisturbed_iff.mpr hbetween⟩,
      clears_eq_false_iff.mpr hrest⟩
  · rintro ⟨_, m, rest, rfl, ⟨before, m', between, rfl, hi, hm', hending, hbetween⟩, hrest⟩
    obtain rfl : m' = .search request := by
      cases m' with
      | search request' => exact congrArg Move.search (Option.some.inj hm')
      | _ => cases hm'
    obtain rfl := hi
    -- Only a reply can bring a search that has been asked for to its end.
    obtain ⟨signal, ho⟩ := Channel.Use.reaches_of_ending? hm' hending
    cases m with
    | reply j r =>
      obtain ⟨rfl, -⟩ := Occurrence.reaches.inj ho
      exact ⟨before, between, r, rest, rfl, rfl, hending, undisturbed_iff.mp hbetween, clears_eq_false_iff.mp hrest⟩
    | _ => cases ho

/-- However searches, effects on the list, updates, clears and resets overlap, the search has gathered the pages that
count, merged in the order in which they were asked for, and the two halves of the catalog do not meet: a page that was
asked for before a clear is not merged after it; the list and its effects come to the same as without any search, and
the search and its pages to the same as without any list. -/
theorem search_gathers_apart_from_list (client : Api.Client) (moves : List Move) :
    let c := Catalog.new client
    (∃ pages : List (Nat × PageRequest × Page Component), pages.Pairwise (fun p q => p.1 < q.1) ∧
      (∀ i request page, (i, request, page) ∈ pages ↔ c.PageCounts moves i request page) ∧
      (c.play moves).state.search.value = pages.foldl (fun s p => s.merge p.2.2 p.2.1) .empty) ∧
    (∀ before later i r, moves = before ++ .clearSearch :: later → i < issued before →
      (c.play (moves ++ [.reply i r])).state.search = (c.play moves).state.search) ∧
    (let list := c.play (half Move.inList moves);
      (c.play moves).state.components = list.state.components ∧
      among (halfRoll Move.inList moves) ((c.play moves).parties.map Party.sight) = list.parties.map Party.sight) ∧
    (let search := c.play (half Move.inSearch moves);
      (c.play moves).state.search = search.state.search ∧
      among (halfRoll Move.inSearch moves) ((c.play moves).parties.map Party.sight) =
        search.parties.map Party.sight) := by
  intro c
  refine ⟨?_, ?_, ?_, ?_⟩
  · obtain ⟨landings, hsorted, hmem, hvalue⟩ := searching.exists_landings (s := c) rfl moves
    exact ⟨landings, hsorted, fun i request page => (hmem _).trans pageCounts_iff.symm, hvalue⟩
  · rintro before later i r rfl hi
    have hcleared : searching.clears .clearSearch = true := rfl
    exact Channel.Use.shown_of_cleared hcleared rfl hi
  · obtain ⟨hstate, hsights⟩ := c.list_apart moves
    exact ⟨hstate.components, hsights⟩
  · obtain ⟨hstate, hsights⟩ := c.search_apart moves
    exact ⟨hstate.search, hsights⟩

/-- A page that would have been merged is not if the search is cleared while it is on its way. -/
theorem cleared_search_drops_late_page :
    let client : Api.Client := ⟨"http://api.test"⟩
    let request := FindRequest.toPage ⟨[], none, none⟩ 20
    let page : Api.Reply := .response ⟨200, "\x7b\"entities\":[],\"total\":2\x7d"⟩
    let cleared : List Move := [.search request, .clearSearch]
    ((Catalog.new client).play [.search request, .reply 0 page]).state.search.value.total = 2 ∧
      ((Catalog.new client).play (cleared ++ [.reply 0 page])).state.search =
        ((Catalog.new client).play cleared).state.search := by
  intro client request page cleared
  have hmerged : ((Catalog.new client).play [.search request, .reply 0 page]).state.search.value.total = 2 := by
    decide +kernel
  obtain ⟨-, hdropped, -⟩ := search_gathers_apart_from_list client cleared
  have hissued : 0 < issued [Move.search request] := by decide
  exact ⟨hmerged, hdropped [.search request] [] 0 page rfl hissued⟩

end Catalog

end RunWatch
