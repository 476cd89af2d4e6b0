import RunWatch.Proofs.Cache.Overlap
import RunWatch.Proofs.Cache.Work
import RunWatch.Proofs.Ensemble.Requests

/-!
# Effects that overlap on a catalog

Any number of effects at work on one catalog: effects on the list of components, updates with their schedules
and search pages, whose replies arrive in any order, with changes dispatched, searches cleared and resets in
between.  A history of the catalog is a list of `Move`s, and `Catalog.play` is the ensemble that it leads to.

Nothing but a reset starts a new epoch at the desk of the components (`brings_keepsEpoch`), so the epoch counts
the resets of the history (`epochKept`) and a ticket for a single record is good until the next one
(`isCurrent_single`).
-/

namespace RunWatch

/-- A change of a cache that neither starts an epoch nor moves the cache elsewhere. -/
def Cache.KeepsEpoch {R : Type} (change : Cache R → Cache R) : Prop :=
  ∀ c, (change c).endpoint = c.endpoint ∧ (change c).desk.epoch = c.desk.epoch

theorem Cache.keepsEpoch_settle {R : Type} [Record R] (t : Ticket) (change : Change R) :
    Cache.KeepsEpoch fun c => c.settle t change := by
  intro c
  by_cases h : c.accepts t = true
  · simp [Cache.settle, h, Cache.dispatch]
  · simp [Cache.settle, h]

theorem Cache.each_keepsEpoch {R : Type} [Record R] (effect : Effect R) :
    (Cache.perform effect).Each Cache.KeepsEpoch :=
  Cache.each_perform (fun c => ⟨rfl, TicketDesk.take_epoch c.desk _⟩) Cache.keepsEpoch_settle

namespace Catalog

/-- What an effect of a catalog comes to. -/
inductive Outcome where
  | changed (o : Cache.Outcome Component)
  | updated (o : Except CacheFault (Change Component))
  | searched (o : Except CacheFault (Page Component))

/-- What can happen to a catalog. -/
inductive Move where
  /-- An effect on the list of components. -/
  | issue (effect : Effect Component)
  | update (component : Component) (drafts : List ScheduleDraft)
  | search (request : PageRequest)
  /-- A reply arrives for an effect; effects are counted in the order of their issue. -/
  | reply (i : Nat) (reply : Api.Reply)
  | dispatch (change : Change Component)
  | clearSearch
  /-- The list of components is reset. -/
  | reset

/-- An effect, with what it comes to tagged by its sort. -/
def tagged {α : Type} (tag : α → Outcome) (a : Activity Catalog α) : Activity Catalog Outcome :=
  a.bind fun o => .finished (tag o)

namespace Move

/-- A move as it happens among the effects at work. -/
def occurrence : Move → Occurrence Catalog Outcome
  | issue effect => .enters (tagged .changed (onComponents (Cache.perform effect)))
  | update component drafts => .enters (tagged .updated (performUpdate component drafts))
  | search request => .enters (tagged .searched (performSearch request))
  | reply i r => .reaches i (.reply r)
  | dispatch change => .passes fun c => { c with components := c.components.dispatch change }
  | clearSearch => .passes Catalog.clearSearch
  | reset => .passes fun c => { c with components := c.components.reset }

/-- The reply that a move brings for the effect in a place. -/
def replyTo? (i : Nat) : Move → Option Api.Reply
  | reply j r => if j = i then some r else none
  | _ => none

theorem ne_reaches_of_replyTo? {i : Nat} {m : Move} (h : m.replyTo? i = none) (signal : Signal) :
    m.occurrence ≠ .reaches i signal := by
  cases m with
  | reply j r =>
    intro heq
    obtain ⟨rfl, -⟩ := Occurrence.reaches.inj heq
    simp [replyTo?] at h
  | _ => exact nofun

end Move

/-- The count of effects issued by some moves. -/
def issued (moves : List Move) : Nat :=
  moves.countP fun m => m.occurrence.isEntry

/-- The replies that some moves bring for the effect in a place. -/
def repliesTo (i : Nat) (moves : List Move) : List Api.Reply :=
  moves.filterMap (Move.replyTo? i)

/-- A catalog and its effects after some moves. -/
def play (c : Catalog) (moves : List Move) : Ensemble Catalog Outcome :=
  (Ensemble.alone c).run (moves.map Move.occurrence)

/-- The requests that the effect in a place sends over some moves. -/
def requestsOf (c : Catalog) (i : Nat) (moves : List Move) : List Api.Request :=
  (Ensemble.alone c).requestsOf i (moves.map Move.occurrence)

theorem length_play (c : Catalog) (moves : List Move) : (c.play moves).parties.length = issued moves :=
  Ensemble.length_run_alone c Move.occurrence moves

theorem play_concat (c : Catalog) (moves : List Move) (m : Move) :
    c.play (moves ++ [m]) = (c.play moves).step m.occurrence :=
  Ensemble.run_map_concat _ Move.occurrence moves m

theorem requestsOf_concat (c : Catalog) (i : Nat) (moves : List Move) (m : Move) :
    c.requestsOf i (moves ++ [m]) = c.requestsOf i moves ++ ((c.play moves).asks? i m.occurrence).toList :=
  Ensemble.requestsOf_map_concat _ i Move.occurrence moves m

/-- A catalog that goes on in the same epoch of its components. -/
structure SameEpoch (c c' : Catalog) : Prop where
  endpoint : c'.components.endpoint = c.components.endpoint
  schedules : c'.schedules = c.schedules
  epoch : c'.components.desk.epoch = c.components.desk.epoch

theorem SameEpoch.refl (c : Catalog) : SameEpoch c c :=
  ⟨rfl, rfl, rfl⟩

theorem SameEpoch.trans {c c' c'' : Catalog} (h : SameEpoch c c') (h' : SameEpoch c' c'') : SameEpoch c c'' :=
  ⟨h'.endpoint.trans h.endpoint, h'.schedules.trans h.schedules, h'.epoch.trans h.epoch⟩

/-- A change of a catalog that starts no epoch. -/
def KeepsEpoch (change : Catalog → Catalog) : Prop :=
  ∀ c, SameEpoch c (change c)

/-- What is left to do of an update when its plan has been drawn up: nothing if there is none. -/
def followPlan : Except CacheFault (Flight Component) → Activity Catalog (Except CacheFault (Change Component))
  | .error fault => .finished (.error fault)
  | .ok flight => completeUpdate flight

theorem performUpdate_eq (component : Component) (drafts : List ScheduleDraft) :
    performUpdate component drafts =
      (Activity.transact fun c : Catalog => (c, c.issueUpdate component drafts)).bind followPlan :=
  rfl

/-- What settling a change does to the catalog is all that is left to do of an update. -/
theorem each_followPlan {P : (Catalog → Catalog) → Prop} (hsettle : ∀ t change, P fun c => c.settle t change)
    (planned : Except CacheFault (Flight Component)) : (followPlan planned).Each P := by
  cases planned with
  | error fault => trivial
  | ok flight => exact each_completeUpdate (hsettle flight.ticket)

theorem each_performUpdate {P : (Catalog → Catalog) → Prop} (hplan : P fun c => c)
    (hsettle : ∀ t change, P fun c => c.settle t change) (component : Component) (drafts : List ScheduleDraft) :
    (performUpdate component drafts).Each P := by
  rw [performUpdate_eq]
  exact ⟨hplan, fun _ => each_followPlan hsettle _⟩

/-- A search asks for its page and settles it. -/
theorem each_performSearch {P : (Catalog → Catalog) → Prop} {request : PageRequest}
    (hissue : P fun c => (c.issueSearch request).1) (hsettle : ∀ t page, P fun c => c.settleSearch t request page) :
    (performSearch request).Each P :=
  ⟨hissue, fun _ => each_completeSearch (hsettle _)⟩

end Catalog

end RunWatch
