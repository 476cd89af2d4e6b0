import RunWatch.Proofs.Cache.Catalog.Moves

/-!
# Searches that overlap

Searches are browsed page by page, and nothing keeps one from being begun while pages of another are awaited.
This module follows where the components of the bucket come from.  `Browsing` is the bucket with each component
labelled by the search that it was asked for by, and the last request as long as its reply counts; a history of
`Browse`s leads it along with the catalog (`follows`), so the labels say which replies the components of the catalog
came from.

A reply counts if and only if its request is still the last one, and nothing has cleared the bucket since.  So a later
page can be merged although the first page of its search has not been, because the later request itself has superseded
the first one; then it joins the components of another search (`later_page_joins_other_search`).  The bucket is mixed
in no other way (`unmixed_iff_later_pages_join_own`).
-/

namespace RunWatch

/-- What a search looks for, and how many components a page of it has. -/
structure SearchQuery where
  find : FindRequest
  count : UInt32

namespace SearchQuery

/-- The request for a page of a search, counted from zero. -/
def request (q : SearchQuery) : Nat → PageRequest
  | 0 => q.find.toPage q.count
  | page + 1 => (q.request page).next

theorem toNat_page_request (q : SearchQuery) (page : Nat) :
    (q.request page).page.toNat = min page (UInt32.size - 1) := by
  induction page with
  | zero => rfl
  | succ page ih =>
    rw [request, PageRequest.next]
    by_cases h : (q.request page).page.toNat + 1 < UInt32.size
    · rw [if_pos h, UInt32.toNat_add]
      simp only [UInt32.size] at *
      simp
      omega
    · rw [if_neg h]
      simp only [UInt32.size] at *
      omega

/-- Only the first page of a search starts afresh, however many pages there are. -/
theorem page_request_eq_zero (q : SearchQuery) (page : Nat) : (q.request page).page = 0 ↔ page = 0 := by
  rw [← UInt32.toNat_inj, toNat_page_request]
  simp [UInt32.size]

end SearchQuery

namespace Catalog

/-- What can happen while searches are browsed. -/
inductive Browse where
  /-- A page of a search is asked for. -/
  | asks (search page : Nat)
  /-- A reply arrives for a request; requests are counted in the order in which they were made. -/
  | reply (i : Nat) (reply : Api.Reply)
  | clear

namespace Browse

/-- A step of browsing as a move of the catalog. -/
def move (queries : Nat → SearchQuery) : Browse → Move
  | asks search page => .search ((queries search).request page)
  | reply i r => .reply i r
  | clear => .clearSearch

end Browse

/-- A new catalog after some browsing. -/
def browse (client : Api.Client) (queries : Nat → SearchQuery) (bs : List Browse) : Ensemble Catalog Outcome :=
  (Catalog.new client).play (bs.map (Browse.move queries))

/-! ## Where components come from -/

/-- The state of some browsing, seen from the searches. -/
structure Browsing where
  /-- The count of requests. -/
  asked : Nat
  /-- The search and the page of the last request, as long as its reply counts. -/
  awaited : Option (Nat × Nat)
  /-- The components at hand, each with the search it was asked for by. -/
  bucket : List (Nat × Component)

namespace Browsing

/-- The labelled bucket with one more component, unless its identifier is there already. -/
def addNew (search : Nat) (bucket : List (Nat × Component)) (c : Component) : List (Nat × Component) :=
  if Listing.has (Record.id c) (bucket.map Prod.snd) then bucket else bucket ++ [(search, c)]

/-- The labelled bucket after a page of a search. -/
def gather (search page : Nat) (items : List Component) (bucket : List (Nat × Component)) :
    List (Nat × Component) :=
  if page = 0 then items.map (Prod.mk search) else items.foldl (addNew search) bucket

/-- What a reply to the awaited request brings. -/
def receive (b : Browsing) (r : Api.Reply) : Browsing :=
  match b.awaited, r.decode (Page.codec Component) with
  | some (search, page), .ok p => { b with awaited := none, bucket := gather search page p.items b.bucket }
  | _, _ => { b with awaited := none }

def step (b : Browsing) : Browse → Browsing
  | .asks search page => { b with asked := b.asked + 1, awaited := some (search, page) }
  | .reply i r => if i + 1 = b.asked then b.receive r else b
  | .clear => { b with awaited := none, bucket := [] }

/-- The browsing that some steps make. -/
def after (bs : List Browse) : Browsing :=
  bs.foldl step ⟨0, none, []⟩

theorem after_concat (bs : List Browse) (b : Browse) : after (bs ++ [b]) = (after bs).step b :=
  List.foldl_append

theorem map_addNew (search : Nat) (bucket : List (Nat × Component)) (c : Component) :
    (addNew search bucket c).map Prod.snd = Search.addNew (bucket.map Prod.snd) c := by
  unfold addNew Search.addNew
  split
  · rfl
  · rw [List.map_append]
    rfl

theorem map_foldl_addNew (search : Nat) (items : List Component) (bucket : List (Nat × Component)) :
    (items.foldl (addNew search) bucket).map Prod.snd = items.foldl Search.addNew (bucket.map Prod.snd) := by
  induction items generalizing bucket with
  | nil => rfl
  | cons c items ih => rw [List.foldl_cons, List.foldl_cons, ← map_addNew search, ih]

/-- Without its labels the bucket is what the search gathers. -/
theorem map_gather (q : SearchQuery) (search page : Nat) (p : Page Component) {s : Search}
    {bucket : List (Nat × Component)} (h : s.all = bucket.map Prod.snd) :
    (s.merge p (q.request page)).all = (gather search page p.items bucket).map Prod.snd := by
  unfold Search.merge gather
  by_cases hpage : page = 0
  · rw [if_pos ((q.page_request_eq_zero page).mpr hpage), if_pos hpage, List.map_map]
    exact (List.map_id _).symm
  · rw [if_neg (mt (q.page_request_eq_zero page).mp hpage), if_neg hpage, h]
    exact (map_foldl_addNew search p.items bucket).symm

end Browsing

/-! ## Requests at work -/

/-- What is left to do for a search page once its reply is there. -/
def takePage (t : Ticket) (request : PageRequest) (r : Api.Reply) : Activity Catalog Outcome :=
  tagged .searched (completeSearch ⟨t, request, .answer (r.decode (Page.codec Component))⟩)

/-- A reply is merged if it brings a page and the ticket is still good. -/
theorem advance_takePage (t : Ticket) (request : PageRequest) (r : Api.Reply) (c : Catalog) :
    (∃ fault, r.decode (Page.codec Component) = .error fault ∧
      (takePage t request r).advance c = (c, .ended (.searched (.error (.api fault))))) ∨
    ∃ page, r.decode (Page.codec Component) = .ok page ∧
      (takePage t request r).advance c = (c.settleSearch t request page, .ended (.searched (.ok page))) := by
  unfold takePage
  cases r.decode (Page.codec Component) with
  | error fault => exact .inl ⟨fault, rfl, rfl⟩
  | ok page => exact .inr ⟨page, rfl, rfl⟩

end Catalog

namespace TicketDesk

/-- The list ticket that was taken last. -/
def latest (d : TicketDesk) : Ticket := ⟨d.epoch, some d.generation⟩

theorem isCurrent_latest (d : TicketDesk) : d.isCurrent d.latest = true := by
  simp [isCurrent, latest]

/-- A list ticket that a desk has gone past. -/
def Past (d : TicketDesk) (t : Ticket) : Prop :=
  ∃ generation, t.generation = some generation ∧ t.epoch ≤ d.epoch ∧ generation ≤ d.generation ∧
    (t.epoch < d.epoch ∨ generation < d.generation)

theorem Past.not_current {d : TicketDesk} {t : Ticket} (h : d.Past t) : d.isCurrent t = false := by
  obtain ⟨generation, hg, -, -, hlt⟩ := h
  have hne : ¬(t.epoch = d.epoch ∧ generation = d.generation) := by omega
  simpa [isCurrent, hg] using hne

/-- A desk at which neither the last list ticket of another one nor those before it are good any more. -/
def Supersedes (d' d : TicketDesk) : Prop :=
  d'.Past d.latest ∧ ∀ t, d.Past t → d'.Past t

theorem supersedes_list (d : TicketDesk) : d.list.1.Supersedes d := by
  refine ⟨⟨d.generation, rfl, Nat.le_refl _, Nat.le_succ _, .inr (Nat.lt_succ_self _)⟩, ?_⟩
  rintro t ⟨generation, hg, hepoch, hle, -⟩
  exact ⟨generation, hg, hepoch, Nat.le_succ_of_le hle, .inr (Nat.lt_succ_of_le hle)⟩

theorem supersedes_invalidate (d : TicketDesk) : d.invalidate.Supersedes d := by
  refine ⟨⟨d.generation, rfl, Nat.le_succ _, Nat.le_refl _, .inl (Nat.lt_succ_self _)⟩, ?_⟩
  rintro t ⟨generation, hg, hepoch, hle, -⟩
  exact ⟨generation, hg, Nat.le_succ_of_le hepoch, hle, .inl (Nat.lt_succ_of_le hepoch)⟩

end TicketDesk

namespace Catalog

/-- A party that has no page to merge any more. -/
def Idle (d : TicketDesk) (p : Party Catalog Outcome) : Prop :=
  p.Continues fun a => ∃ t request r, d.Past t ∧ a = takePage t request r

theorem idle_ended (d : TicketDesk) (o : Outcome) : Idle d (.ended o) :=
  Party.continues_ended _ o

theorem Idle.supersede {d d' : TicketDesk} (h : d'.Supersedes d) {p : Party Catalog Outcome} (hp : Idle d p) :
    Idle d' p :=
  hp.mono fun _ ⟨t, request, r, ht, heq⟩ => ⟨t, request, r, h.2 t ht, heq⟩

/-- A reply to an idle party leaves the catalog alone. -/
theorem step_idle {e : Ensemble Catalog Outcome} {i : Nat}
    (h : ∀ p, e.parties[i]? = some p → Idle e.state.searchDesk p) (r : Api.Reply) :
    e.step (.reaches i (.reply r)) = e ∨
      ∃ o, e.step (.reaches i (.reply r)) = ⟨e.state, e.parties.set i (.ended o)⟩ := by
  cases hon : e.onward? i (.reply r) with
  | none => exact .inl (Ensemble.step_reaches_none hon)
  | some a =>
    obtain ⟨p, hp, ha⟩ := Ensemble.onward?_eq_some.mp hon
    obtain ⟨t, request, r', ht, rfl⟩ := h p hp _ a ha
    rw [Ensemble.step_reaches_some hon, Ensemble.resume]
    obtain ⟨fault, -, h⟩ | ⟨page, -, h⟩ := advance_takePage t request r' e.state
    · rw [h]
      exact .inr ⟨_, rfl⟩
    · rw [h, settleSearch, if_neg (by simp [ht.not_current])]
      exact .inr ⟨_, rfl⟩

/-- A catalog that is where some browsing has led to. -/
structure Follows (queries : Nat → SearchQuery) (e : Ensemble Catalog Outcome) (b : Browsing) : Prop where
  asked : e.parties.length = b.asked
  all : e.state.search.value.all = b.bucket.map Prod.snd
  idle : b.awaited = none → ∀ p ∈ e.parties, Idle e.state.searchDesk p
  /-- Beside idle parties there is the one that waits for the reply that counts. -/
  awaited : ∀ search page, b.awaited = some (search, page) → ∃ before request,
    e.parties = before ++
      [.awaiting request (takePage e.state.searchDesk.latest ((queries search).request page))] ∧
    ∀ p ∈ before, Idle e.state.searchDesk p

namespace Follows

variable {queries : Nat → SearchQuery} {e : Ensemble Catalog Outcome} {b : Browsing}

/-- No page is merged once the desk has gone past the last request. -/
theorem supersede (h : Follows queries e b) {d : TicketDesk} (hd : d.Supersedes e.state.searchDesk) :
    ∀ p ∈ e.parties, Idle d p := by
  cases hawaited : b.awaited with
  | none => exact fun p hp => (h.idle hawaited p hp).supersede hd
  | some awaited =>
    obtain ⟨before, request, hparties, hidle⟩ := h.awaited _ _ hawaited
    rw [hparties]
    intro p hp
    obtain hp | hp := List.mem_append.mp hp
    · exact (hidle p hp).supersede hd
    · obtain rfl := List.mem_singleton.mp hp
      exact Party.continues_awaiting fun r => ⟨_, _, r, hd.1, rfl⟩

theorem asks (h : Follows queries e b) (search page : Nat) :
    Follows queries (e.step (Browse.move queries (.asks search page)).occurrence) (b.step (.asks search page)) := by
  have hstep : e.step (Browse.move queries (.asks search page)).occurrence =
      ⟨{ e.state with searchDesk := e.state.searchDesk.list.1 }, e.parties ++
        [.awaiting (e.state.components.endpoint.pageRequest ((queries search).request page))
          (takePage e.state.searchDesk.list.2 ((queries search).request page))]⟩ := rfl
  rw [hstep]
  refine ⟨?_, h.all, nofun, fun search' page' heq => ?_⟩
  · rw [List.length_append, h.asked]
    rfl
  · obtain ⟨rfl, rfl⟩ : search = search' ∧ page = page' := by simpa [Browsing.step] using heq
    exact ⟨_, _, rfl, h.supersede (TicketDesk.supersedes_list _)⟩

theorem clear (h : Follows queries e b) :
    Follows queries (e.step (Browse.move queries .clear).occurrence) (b.step .clear) :=
  ⟨h.asked, rfl, fun _ => h.supersede (TicketDesk.supersedes_invalidate _), nofun⟩

theorem idle_set {d : TicketDesk} {parties : List (Party Catalog Outcome)} (h : ∀ p ∈ parties, Idle d p) (i : Nat)
    (o : Outcome) : ∀ p ∈ parties.set i (.ended o), Idle d p := by
  intro p hp
  obtain hp | rfl := List.mem_or_eq_of_mem_set hp
  · exact h p hp
  · exact idle_ended d o

/-- A reply that does not count. -/
theorem reply_idle (h : Follows queries e b) {i : Nat} (r : Api.Reply)
    (hidle : i + 1 = b.asked → b.awaited = none) :
    Follows queries (e.step (.reaches i (.reply r))) b := by
  have hplace {before : List (Party Catalog Outcome)} {p : Party Catalog Outcome} {awaited : Nat × Nat}
      (hparties : e.parties = before ++ [p]) (hawaited : b.awaited = some awaited) : i ≠ before.length := by
    rintro rfl
    have hlength : before.length + 1 = b.asked := by rw [← h.asked, hparties, List.length_append]; rfl
    cases (hidle hlength).symm.trans hawaited
  have hparty : ∀ p, e.parties[i]? = some p → Idle e.state.searchDesk p := by
    intro p hp
    cases hawaited : b.awaited with
    | none => exact h.idle hawaited p (List.mem_of_getElem? hp)
    | some awaited =>
      obtain ⟨before, request, hparties, hbefore⟩ := h.awaited _ _ hawaited
      have hi := (List.getElem?_eq_some_iff.mp hp).1
      have hne := hplace hparties hawaited
      rw [hparties, List.length_append, List.length_singleton] at hi
      rw [hparties, List.getElem?_append_left (by omega)] at hp
      exact hbefore p (List.mem_of_getElem? hp)
  obtain hsame | ⟨o, hset⟩ := step_idle hparty r
  · rwa [hsame]
  · rw [hset]
    refine ⟨(List.length_set).trans h.asked, h.all, fun hnone => idle_set (h.idle hnone) i o, ?_⟩
    intro search page hawaited
    obtain ⟨before, request, hparties, hbefore⟩ := h.awaited _ _ hawaited
    have hne := hplace hparties hawaited
    refine ⟨before.set i (.ended o), request, ?_, idle_set hbefore i o⟩
    obtain hlt | hgt := Nat.lt_or_gt_of_ne hne
    · rw [hparties, List.set_append_left i _ hlt]
    · have hlength : e.parties.length ≤ i := by
        rw [hparties, List.length_append]
        exact hgt
      rw [List.set_eq_of_length_le hlength, List.set_eq_of_length_le (Nat.le_of_lt hgt), hparties]

/-- The reply that counts: if it brings a page, that is merged. -/
theorem reply_awaited (h : Follows queries e b) {search page : Nat} (hawaited : b.awaited = some (search, page))
    {i : Nat} (hi : i + 1 = b.asked) (r : Api.Reply) :
    Follows queries (e.step (.reaches i (.reply r))) (b.receive r) := by
  obtain ⟨before, request, hparties, hbefore⟩ := h.awaited _ _ hawaited
  have hlength := h.asked
  rw [hparties, List.length_append, List.length_singleton] at hlength
  obtain rfl : i = before.length := by omega
  have honward : e.onward? before.length (.reply r) =
      some (takePage e.state.searchDesk.latest ((queries search).request page) r) := by
    have hparty := congrArg (·[before.length]?) hparties
    exact Ensemble.onward?_eq_some.mpr ⟨_, hparty.trans List.getElem?_concat_length, rfl⟩
  rw [Ensemble.step_reaches_some honward, Ensemble.resume]
  have hidle (o : Outcome) : ∀ p ∈ e.parties.set before.length (.ended o), Idle e.state.searchDesk p := by
    rw [hparties, List.set_append_right _ _ (Nat.le_refl _)]
    intro p hp
    obtain hp | hp := List.mem_append.mp hp
    · exact hbefore p hp
    · rw [Nat.sub_self] at hp
      obtain rfl := List.mem_singleton.mp hp
      exact idle_ended _ o
  obtain ⟨fault, hfault, hadvance⟩ | ⟨p, hp, hadvance⟩ := advance_takePage e.state.searchDesk.latest
    ((queries search).request page) r e.state
  · have hreceive : b.receive r = { b with awaited := none } := by
      rw [Browsing.receive, hawaited, hfault]
    rw [hadvance, hreceive]
    exact ⟨(List.length_set).trans h.asked, h.all, fun _ => hidle _, by simp⟩
  · have hreceive : b.receive r =
        { b with awaited := none, bucket := Browsing.gather search page p.items b.bucket } := by
      rw [Browsing.receive, hawaited, hp]
    rw [hadvance, hreceive, settleSearch, if_pos (TicketDesk.isCurrent_latest _)]
    exact ⟨(List.length_set).trans h.asked, Browsing.map_gather _ search page p h.all, fun _ => hidle _, by simp⟩

theorem step (h : Follows queries e b) (act : Browse) :
    Follows queries (e.step (act.move queries).occurrence) (b.step act) := by
  cases act with
  | asks search page => exact h.asks search page
  | clear => exact h.clear
  | reply i r =>
    change Follows queries (e.step (.reaches i (.reply r))) (if i + 1 = b.asked then b.receive r else b)
    by_cases hi : i + 1 = b.asked
    · rw [if_pos hi]
      cases hawaited : b.awaited with
      | some awaited => exact h.reply_awaited hawaited hi r
      | none =>
        have hreceive : b.receive r = b := by
          rw [Browsing.receive, hawaited]
          obtain ⟨asked, awaited, bucket⟩ := b
          exact congrArg (Browsing.mk asked · bucket) hawaited.symm
        rw [hreceive]
        exact h.reply_idle r fun _ => hawaited
    · rw [if_neg hi]
      exact h.reply_idle r fun heq => absurd heq hi

end Follows

/-- Whatever is browsed, the catalog is where the browsing has led to. -/
theorem follows (client : Api.Client) (queries : Nat → SearchQuery) (bs : List Browse) :
    Follows queries (browse client queries bs) (Browsing.after bs) := by
  induction bs using List.reverseRecOn with
  | nil => exact ⟨rfl, rfl, fun _ p hp => absurd hp List.not_mem_nil, nofun⟩
  | append_singleton bs act ih =>
    rw [browse, List.map_append, Browsing.after_concat, List.map_singleton, play_concat]
    exact ih.step act

/-! ## Mixed buckets -/

/-- Components that were asked for by one and the same search. -/
def OneSearch (bucket : List (Nat × Component)) : Prop :=
  ∀ m ∈ bucket, ∀ m' ∈ bucket, m.1 = m'.1

/-- Nothing but replies to other requests than the one in a place. -/
def Undisturbed (i : Nat) (between : List Browse) : Prop :=
  ∀ act ∈ between, ∃ j r, act = .reply j r ∧ j ≠ i

namespace Browsing

theorem subset_foldl_addNew (search : Nat) (items : List Component) (bucket : List (Nat × Component)) :
    bucket ⊆ items.foldl (addNew search) bucket := by
  induction items generalizing bucket with
  | nil => exact List.Subset.refl _
  | cons c items ih =>
    refine List.Subset.trans ?_ (ih _)
    unfold addNew
    split
    · exact List.Subset.refl _
    · exact List.subset_append_left _ _

/-- A later page adds components under its own label only. -/
theorem mem_foldl_addNew {search : Nat} {items : List Component} {bucket : List (Nat × Component)}
    {m : Nat × Component} (h : m ∈ items.foldl (addNew search) bucket) : m ∈ bucket ∨ m.1 = search := by
  induction items generalizing bucket with
  | nil => exact .inl h
  | cons c items ih =>
    obtain h | h := ih h
    · unfold addNew at h
      split at h
      · exact .inl h
      · obtain h | h := List.mem_append.mp h
        · exact .inl h
        · exact .inr (by rw [List.mem_singleton.mp h])
    · exact .inr h

/-- A page that brings a component that is not there yet adds one. -/
theorem exists_mem_foldl_addNew (search : Nat) {items : List Component} {bucket : List (Nat × Component)}
    (h : ∃ c ∈ items, Listing.has (Record.id c) (bucket.map Prod.snd) = false) :
    ∃ m ∈ items.foldl (addNew search) bucket, m.1 = search := by
  induction items generalizing bucket with
  | nil =>
    obtain ⟨c, hc, -⟩ := h
    cases hc
  | cons c items ih =>
    rw [List.foldl_cons]
    by_cases hhas : Listing.has (Record.id c) (bucket.map Prod.snd) = true
    · rw [addNew, if_pos hhas]
      obtain ⟨c', hc', hnew⟩ := h
      obtain rfl | hc' := List.mem_cons.mp hc'
      · cases hhas.symm.trans hnew
      · exact ih ⟨c', hc', hnew⟩
    · rw [addNew, if_neg hhas]
      exact ⟨(search, c), subset_foldl_addNew _ _ _ (List.mem_append_right _ List.mem_cons_self), rfl⟩

theorem foldl_addNew_eq_self (search : Nat) {items : List Component} {bucket : List (Nat × Component)}
    (h : ∀ c ∈ items, Listing.has (Record.id c) (bucket.map Prod.snd) = true) :
    items.foldl (addNew search) bucket = bucket := by
  induction items with
  | nil => rfl
  | cons c items ih =>
    rw [List.foldl_cons, addNew, if_pos (h c List.mem_cons_self)]
    exact ih fun c' hc' => h c' (List.mem_cons_of_mem c hc')

/-- Until something else than a late reply happens, the request made last is awaited. -/
theorem after_asks {before between : List Browse} (h : Undisturbed (after before).asked between) (search page : Nat) :
    after (before ++ .asks search page :: between) =
      ⟨(after before).asked + 1, some (search, page), (after before).bucket⟩ := by
  induction between using List.reverseRecOn with
  | nil => exact after_concat before _
  | append_singleton between act ih =>
    obtain ⟨j, r, rfl, hj⟩ := h act (List.mem_append_right _ List.mem_cons_self)
    have hbefore := ih fun act' hact' => h act' (List.mem_append_left _ hact')
    rw [← List.cons_append, ← List.append_assoc, after_concat, hbefore]
    exact if_neg (by simpa using hj)

/-- An awaited request was made last. -/
theorem split_of_awaited {bs : List Browse} {search page : Nat} (h : (after bs).awaited = some (search, page)) :
    ∃ before between, bs = before ++ .asks search page :: between ∧ Undisturbed (after before).asked between := by
  induction bs using List.reverseRecOn with
  | nil => cases h
  | append_singleton bs act ih =>
    rw [after_concat] at h
    cases act with
    | asks search' page' =>
      obtain ⟨rfl, rfl⟩ : search' = search ∧ page' = page := by simpa [step] using h
      exact ⟨bs, [], rfl, nofun⟩
    | clear => cases h
    | reply i r =>
      by_cases hi : i + 1 = (after bs).asked
      · have hreceive : ((after bs).receive r).awaited = none := by
          unfold receive
          split <;> rfl
        rw [step, if_pos hi, hreceive] at h
        cases h
      · rw [step, if_neg hi] at h
        obtain ⟨before, between, rfl, hbetween⟩ := ih h
        refine ⟨before, between ++ [.reply i r], List.append_assoc _ _ _, fun act hact => ?_⟩
        obtain hact | hact := List.mem_append.mp hact
        · exact hbetween act hact
        · rw [after_asks hbetween] at hi
          exact ⟨i, r, List.mem_singleton.mp hact, by simpa using hi⟩

end Browsing

theorem oneSearch_nil : OneSearch [] :=
  fun _ hm => absurd hm List.not_mem_nil

/-- A bucket of one search stays so under a later page if and only if that is of the same search or brings
nothing new. -/
theorem oneSearch_gather_iff (search page : Nat) {items : List Component} {bucket : List (Nat × Component)}
    (h : OneSearch bucket) : OneSearch (Browsing.gather search (page + 1) items bucket) ↔
      ((∃ c ∈ items, Listing.has (Record.id c) (bucket.map Prod.snd) = false) → ∀ m ∈ bucket, m.1 = search) := by
  rw [Browsing.gather, if_neg (Nat.succ_ne_zero page)]
  constructor
  · rintro hone hnew m hm
    obtain ⟨m', hm', rfl⟩ := Browsing.exists_mem_foldl_addNew search hnew
    exact hone m (Browsing.subset_foldl_addNew _ _ _ hm) m' hm'
  · intro hown
    by_cases hnew : ∃ c ∈ items, Listing.has (Record.id c) (bucket.map Prod.snd) = false
    · have hlabel : ∀ m ∈ items.foldl (Browsing.addNew search) bucket, m.1 = search := fun m hm =>
        (Browsing.mem_foldl_addNew hm).elim (hown hnew m) id
      exact fun m hm m' hm' => (hlabel m hm).trans (hlabel m' hm').symm
    · rw [Browsing.foldl_addNew_eq_self search fun c hc => by simpa using fun hhas => hnew ⟨c, hc, hhas⟩]
      exact h

/-- What a reply does to a bucket of one search: only a later page can mix it. -/
theorem oneSearch_receive {b : Browsing} (h : OneSearch b.bucket) (r : Api.Reply)
    (hown : ∀ search page p, b.awaited = some (search, page + 1) → r.decode (Page.codec Component) = .ok p →
      (∃ c ∈ p.items, Listing.has (Record.id c) (b.bucket.map Prod.snd) = false) → ∀ m ∈ b.bucket, m.1 = search) :
    OneSearch (b.receive r).bucket := by
  unfold Browsing.receive
  split
  · rename_i search page p hawaited hp
    cases page with
    | zero =>
      have hlabel : ∀ m ∈ p.items.map (Prod.mk search), m.1 = search := fun m hm => by
        obtain ⟨c, -, rfl⟩ := List.mem_map.mp hm
        rfl
      exact fun m hm m' hm' => (hlabel m hm).trans (hlabel m' hm').symm
    | succ page => exact (oneSearch_gather_iff search page h).mpr (hown search page p hawaited hp)
  · exact h

/-- What the components at hand came from.  Without its labels the bucket of the browsing is that of the catalog;
and it is of one search at all times if and only if no later page brings a new component that has been asked for
while the bucket held a component of another search. -/
theorem unmixed_iff_later_pages_join_own (client : Api.Client) (queries : Nat → SearchQuery) (bs : List Browse) :
    (∀ done, done <+: bs →
      (browse client queries done).state.search.value.all = (Browsing.after done).bucket.map Prod.snd) ∧
    ((∀ done, done <+: bs → OneSearch (Browsing.after done).bucket) ↔
      ∀ before search page between r p rest,
        bs = before ++ .asks search (page + 1) :: (between ++ .reply (Browsing.after before).asked r :: rest) →
        Undisturbed (Browsing.after before).asked between →
        r.decode (Page.codec Component) = .ok p →
        (∃ c ∈ p.items, Listing.has (Record.id c) (browse client queries before).state.search.value.all = false) →
        ∀ m ∈ (Browsing.after before).bucket, m.1 = search) := by
  refine ⟨fun done _ => (follows client queries done).all, ?_, ?_⟩
  · intro hone before search page between r p rest heq hbetween hp hnew
    rw [(follows client queries before).all] at hnew
    have hreply : (Browsing.after (before ++ .asks search (page + 1) :: between ++
        [.reply (Browsing.after before).asked r])).bucket =
          Browsing.gather search (page + 1) p.items (Browsing.after before).bucket := by
      rw [Browsing.after_concat, Browsing.after_asks hbetween, Browsing.step, if_pos rfl, Browsing.receive, hp]
    have hbefore := hone before ⟨_, heq.symm⟩
    have hmerged := hone (before ++ .asks search (page + 1) :: between ++
      [.reply (Browsing.after before).asked r]) ⟨rest, by rw [heq]; simp⟩
    rw [hreply] at hmerged
    exact (oneSearch_gather_iff search page hbefore).mp hmerged hnew
  · intro hown done hdone
    induction done using List.reverseRecOn with
    | nil => exact oneSearch_nil
    | append_singleton done act ih =>
      have ih := ih ((List.prefix_append done [act]).trans hdone)
      rw [Browsing.after_concat]
      cases act with
      | asks search page => exact ih
      | clear => exact oneSearch_nil
      | reply i r =>
        by_cases hi : i + 1 = (Browsing.after done).asked
        · rw [Browsing.step, if_pos hi]
          refine oneSearch_receive ih r fun search page p hawaited hp hnew => ?_
          obtain ⟨before, between, rfl, hbetween⟩ := Browsing.split_of_awaited hawaited
          rw [Browsing.after_asks hbetween] at hi hnew ⊢
          obtain rfl : i = (Browsing.after before).asked := by simpa using hi
          obtain ⟨rest, hrest⟩ := hdone
          refine hown before search page between r p rest ?_ hbetween hp ?_
          · rw [← hrest]
            simp
          · rwa [(follows client queries before).all]
        · rw [Browsing.step, if_neg hi]
          exact ih

/-- Every search asks for its first page before any later one. -/
def Orderly (bs : List Browse) : Prop :=
  ∀ before search page after, bs = before ++ .asks search (page + 1) :: after → .asks search 0 ∈ before

/-- A reply with one component. -/
def replyOf (id : Uuid) : Api.Reply := .response ⟨200,
  "\x7b\"entities\":[\x7b\"id\":\"" ++ id.text ++
    "\",\"name\":\"c\",\"type\":\"DATASET\",\"key\":\"k\"\x7d],\"total\":2\x7d"⟩

/-- One search has been shown.  Another one asks for its first page and then at once for the next, which makes the
reply to the first count no more: the next page joins what is left of the other search. -/
theorem later_page_joins_other_search :
    let client : Api.Client := ⟨"http://api.test"⟩
    let id (d : Fin 16) : Uuid := ⟨List.replicate 32 d, rfl⟩
    let queries (search : Nat) : SearchQuery := ⟨⟨[("name", .number (.ofNat search))], none, none⟩, 1⟩
    let bs : List Browse := [.asks 0 0, .reply 0 (replyOf (id 1)), .asks 1 0, .asks 1 1, .reply 1 (replyOf (id 2)),
      .reply 2 (replyOf (id 3))]
    Orderly bs ∧ ¬OneSearch (Browsing.after bs).bucket ∧
      (browse client queries bs).state.search.value.all.map Record.id = [id 1, id 3] := by
  intro client id queries bs
  have hbucket : (Browsing.after bs).bucket.map (fun m => (m.1, Record.id m.2)) = [(0, id 1), (1, id 3)] := by
    decide +kernel
  refine ⟨fun before search page after heq => ?_, fun hone => ?_, ?_⟩
  rcases before with _ | ⟨_, _ | ⟨_, _ | ⟨third, _ | ⟨_, _ | ⟨_, _ | ⟨_, before⟩⟩⟩⟩⟩⟩
  · simp [bs] at heq
  · simp [bs] at heq
  · simp [bs] at heq
  · simp only [bs, List.cons_append, List.nil_append, List.cons.injEq] at heq
    obtain ⟨-, -, rfl, hasks, -⟩ := heq
    cases hasks
    simp
  · simp [bs] at heq
  · simp [bs] at heq
  · simp [bs] at heq
  · have hlabels := congrArg (List.map Prod.fst) hbucket
    rw [List.map_map] at hlabels
    have hlabel {n : Nat} (hn : n ∈ [0, 1]) : ∃ m ∈ (Browsing.after bs).bucket, m.1 = n :=
      List.mem_map.mp (hlabels.symm ▸ hn)
    obtain ⟨m, hm, hzero⟩ := hlabel (n := 0) (by decide)
    obtain ⟨m', hm', hlater⟩ := hlabel (n := 1) (by decide)
    have hsame := hone m hm m' hm'
    omega
  · have hids := congrArg (List.map Prod.snd) hbucket
    rw [List.map_map] at hids
    rw [(follows client queries bs).all, List.map_map]
    exact hids

/-- So the later page was asked for while the bucket held a component of the other search. -/
theorem later_page_asked_over_other_search :
    let client : Api.Client := ⟨"http://api.test"⟩
    let id (d : Fin 16) : Uuid := ⟨List.replicate 32 d, rfl⟩
    let queries (search : Nat) : SearchQuery := ⟨⟨[("name", .number (.ofNat search))], none, none⟩, 1⟩
    let before : List Browse := [.asks 0 0, .reply 0 (replyOf (id 1)), .asks 1 0]
    let bs : List Browse := before ++ .asks 1 1 :: ([.reply 1 (replyOf (id 2))] ++ [.reply 2 (replyOf (id 3))])
    (browse client queries bs).state.search.value.all = (Browsing.after bs).bucket.map Prod.snd ∧
      ¬∀ done, done <+: bs → OneSearch (Browsing.after done).bucket := by
  intro client id queries before bs
  obtain ⟨hall, hiff⟩ := unmixed_iff_later_pages_join_own client queries bs
  refine ⟨hall bs (List.prefix_refl bs), fun hone => ?_⟩
  have hnew : ((replyOf (id 3)).decode (Page.codec Component)).toOption.any (fun p => p.items.any fun c =>
      !Listing.has (Record.id c) (browse client queries before).state.search.value.all) = true := by
    decide +kernel
  have hasked : (Browsing.after before).asked = 2 := by decide +kernel
  have hbucket : 0 ∈ (Browsing.after before).bucket.map Prod.fst := by decide +kernel
  obtain ⟨m, hm, hlabel⟩ := List.mem_map.mp hbucket
  have hown := hiff.mp hone before 1 0 [.reply 1 (replyOf (id 2))] (replyOf (id 3))
  rw [hasked] at hown
  cases hp : (replyOf (id 3)).decode (Page.codec Component) with
  | error fault =>
    rw [hp] at hnew
    cases hnew
  | ok p =>
    rw [hp] at hnew
    have hnew : ∃ c ∈ p.items,
        Listing.has (Record.id c) (browse client queries before).state.search.value.all = false := by
      simpa only [Except.toOption, Option.any_some, List.any_eq_true, Bool.not_eq_true'] using hnew
    have hundisturbed : Undisturbed 2 [.reply 1 (replyOf (id 2))] := by
      intro act hact
      exact ⟨1, _, List.mem_singleton.mp hact, by decide⟩
    have hlabel' := hown p [] rfl hundisturbed hp hnew m hm
    omega

end Catalog

end RunWatch
