import RunWatch.Proofs.Cache.Work
import RunWatch.Selection.Keeper

/-!
# What a look of the keeper does

A look has four outcomes, which `Keeper.Looks` lists with what is known in each of them; every other fact about
the keeper rests on that list (`Keeper.looks`).  Beside it stands what the keeper relies on in the cache that it
watches: whatever an effect changes in the listing, it publishes (`Cache.each_publishes`).
-/

namespace RunWatch

/-! ## What a cache publishes -/

/-- A change of a cache that publishes the listing whenever it changes it. -/
def Cache.Publishes {R : Type} (change : Cache R → Cache R) : Prop :=
  ∀ c, (change c).state = c.state ∨ c.state.version < (change c).state.version

namespace Cache

variable {R : Type} [Record R]

theorem publishes_dispatch (change : Change R) : Publishes fun c : Cache R => c.dispatch change :=
  fun _ => .inr (Nat.lt_succ_self _)

omit [Record R] in
theorem publishes_reset : Publishes fun c : Cache R => c.reset :=
  fun _ => .inr (Nat.lt_succ_self _)

theorem publishes_settle (ticket : Ticket) (change : Change R) :
    Publishes fun c : Cache R => c.settle ticket change := by
  intro c
  by_cases h : c.accepts ticket = true
  · exact .inr (by simp [settle, h, dispatch, Published.publish])
  · exact .inl (by simp [settle, h])

theorem each_publishes (flight : Flight R) : (complete flight).Each Publishes :=
  each_complete (publishes_settle flight.ticket)

/-- An effect publishes whatever it changes, however it is interleaved with others. -/
theorem perform_publishes (effect : Effect R) : (perform effect).Each Publishes :=
  each_perform (fun _ => .inl rfl) publishes_settle

end Cache

namespace Keeper

/-! ## Sameness -/

theorem Same.symm {a b : Option Json.Value} (h : Same a b) : Same b a :=
  Eq.symm h

theorem Same.trans {a b c : Option Json.Value} (h : Same a b) (h' : Same b c) : Same a c :=
  Eq.trans h h'

/-! ## Looks -/

theorem report_ne_nil {σ : Type} {w : Written σ} {fault : CacheFault} (h : w.outcome = .error fault) :
    report w ≠ [] := by
  simp [report, h]

variable {R : Type} [Record R] {σ : Type} [SelectionStorage σ]

/-- The outcomes of a look: the keeper and the storage afterwards, and what is reported. -/
inductive Looks (k : Keeper) (c : Cache R) (key : String) (storage : σ) : Keeper × σ × List LogEntry → Prop
  /-- Nothing has been published. -/
  | idle (hseen : k.seen = c.state.version) : Looks k c key storage (k, storage, [])
  /-- The selection is what was stored last. -/
  | unchanged (hseen : k.seen ≠ c.state.version) (hsame : Same (selection c) k.last) :
    Looks k c key storage (⟨k.last, c.state.version⟩, storage, [])
  /-- The selection is stored. -/
  | written (hseen : k.seen ≠ c.state.version) (hdiffers : ¬ Same (selection c) k.last)
    (hok : (store storage key (selection c)).outcome = .ok ()) :
    Looks k c key storage (⟨selection c, c.state.version⟩, (store storage key (selection c)).storage, [])
  /-- The selection could not be stored. -/
  | failed (hseen : k.seen ≠ c.state.version) (hdiffers : ¬ Same (selection c) k.last) {fault : CacheFault}
    (hfault : (store storage key (selection c)).outcome = .error fault) :
    Looks k c key storage (⟨k.last, c.state.version⟩, (store storage key (selection c)).storage,
      report (store storage key (selection c)))

theorem looks (k : Keeper) (c : Cache R) (key : String) (storage : σ) :
    Looks k c key storage (k.look c key storage) := by
  by_cases hseen : k.seen = c.state.version
  · have hlook : k.look c key storage = (k, storage, []) := if_pos hseen
    rw [hlook]
    exact .idle hseen
  · by_cases hsame : Same (selection c) k.last
    · have hlook : k.look c key storage = (⟨k.last, c.state.version⟩, storage, []) := by
        simp [look, hseen, hsame]
      rw [hlook]
      exact .unchanged hseen hsame
    · cases hok : (store storage key (selection c)).outcome with
      | ok u =>
        have hlook : k.look c key storage =
            (⟨selection c, c.state.version⟩, (store storage key (selection c)).storage, []) := by
          simp [look, hseen, hsame, hok, report]
        rw [hlook]
        exact .written hseen hsame hok
      | error fault =>
        have hlook : k.look c key storage = (⟨k.last, c.state.version⟩,
            (store storage key (selection c)).storage, report (store storage key (selection c))) := by
          simp [look, hseen, hsame, hok]
        rw [hlook]
        exact .failed hseen hsame hok

end Keeper

end RunWatch
