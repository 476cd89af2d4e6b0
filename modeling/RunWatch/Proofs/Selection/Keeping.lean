import Mathlib.Data.List.Induction
import RunWatch.Proofs.Cache.Overlap
import RunWatch.Proofs.Platform.Project
import RunWatch.Proofs.Selection.Keeper
import RunWatch.Proofs.Selection.StateFile
import RunWatch.Selection.Session

/-!
# Sessions that are kept

A keeper at work while effects on the projects overlap, with changes dispatched and resets in between.  A
history of the session is a list of `Move`s; a `look` is a moment at which the keeper gets to run, so a history
says how the publications in between fall together.

The invariant is `Session.Kept`: what is stored is what the keeper has last stored, and if nothing has been
published since it looked, that is the selection.  It holds from the moment the keeper begins if the storage is
in step with the selection then, and as long as all writes succeed.
-/

namespace RunWatch

/-- Two selections of projects that are the same as values are the same. -/
theorem Project.eq_of_same {p? q? : Option Project}
    (h : Keeper.Same (p?.map Record.encode) (q?.map Record.encode)) : p? = q? := by
  have hplain (p? : Option Project) :
      (p?.map Record.encode).map Json.Value.plain = p?.map Record.encode := by
    cases p? with
    | none => rfl
    | some p => exact congrArg some (plain_encode p)
  rw [Keeper.Same, hplain, hplain] at h
  exact Option.map_injective Project.encode_injective h

namespace Session

variable {σ : Type}

/-! ## What effects do to a session -/

/-- A change of a session that touches the projects only, and publishes what it changes there. -/
def Publishes (change : Session σ → Session σ) : Prop :=
  ∀ s, (change s).storage = s.storage ∧ (change s).keepers = s.keepers ∧
    ((change s).projects.state = s.projects.state ∨
      s.projects.state.version < (change s).projects.state.version)

theorem each_onProjects {a : Activity (Cache Project) α} (h : a.Each Cache.Publishes) :
    (onProjects (σ := σ) a).Each Publishes :=
  h.within fun _ hchange s => ⟨rfl, rfl, hchange s.projects⟩

theorem publishes_dispatch (change : Change Project) :
    Publishes (σ := σ) fun s => { s with projects := s.projects.dispatch change } :=
  fun s => ⟨rfl, rfl, Cache.publishes_dispatch change s.projects⟩

theorem publishes_reset : Publishes (σ := σ) fun s => { s with projects := s.projects.reset } :=
  fun s => ⟨rfl, rfl, Cache.publishes_reset s.projects⟩

variable [SelectionStorage σ]

/-! ## Histories -/

/-- What can happen in a session. -/
inductive Move where
  /-- An effect on the projects. -/
  | issue (effect : Effect Project)
  | select (id : Uuid)
  /-- A reply arrives for an effect; effects are counted in the order of their issue. -/
  | reply (i : Nat) (reply : Api.Reply)
  | dispatch (change : Change Project)
  | reset
  /-- The keepers look at the projects. -/
  | look

/-- A move as it happens among the effects at work. -/
def Move.occurrence : Move → Occurrence (Session σ) (Cache.Outcome Project)
  | issue effect => .enters (onProjects (Cache.perform effect))
  | select id => .enters (performSelect id)
  | reply i r => .reaches i (.reply r)
  | dispatch change => .passes fun s => { s with projects := s.projects.dispatch change }
  | reset => .passes fun s => { s with projects := s.projects.reset }
  | look => .passes fun s => s.attend.1

/-- A session and its effects after some moves. -/
def play (s : Session σ) (moves : List Move) : Ensemble (Session σ) (Cache.Outcome Project) :=
  (Ensemble.alone s).run (moves.map Move.occurrence)

/-- A session and its effects after some moves, a keeper having begun in between. -/
def keep (s : Session σ) (before later : List Move) : Ensemble (Session σ) (Cache.Outcome Project) :=
  ((s.play before).step (.passes beginKeeping)).run (later.map Move.occurrence)

theorem keep_concat (s : Session σ) (before later : List Move) (m : Move) :
    s.keep before (later ++ [m]) = (s.keep before later).step m.occurrence :=
  Ensemble.run_map_concat _ Move.occurrence later m

/-- Every keeper has seen the latest publication. -/
def Idle (s : Session σ) : Prop :=
  ∀ k ∈ s.keepers, k.seen = s.projects.state.version

instance (s : Session σ) : Decidable s.Idle :=
  inferInstanceAs (Decidable (∀ k ∈ s.keepers, k.seen = s.projects.state.version))

/-- The effects of a session publish what they change, and leave the storage to the keepers. -/
theorem brings_publishes (m : Move) : (m.occurrence (σ := σ)).Brings Publishes := by
  cases m with
  | issue effect => exact each_onProjects (Cache.perform_publishes effect)
  | select id => exact ⟨fun s => ⟨rfl, rfl, .inl rfl⟩, fun s => each_onProjects (Cache.each_publishes _)⟩
  | _ => trivial

/-! ## What a look does -/

theorem stored?_of_load {storage : σ} {p? : Option Project}
    (h : SelectionStorage.load storage Projects.selectionKey = .ok (p?.map Record.encode)) :
    Projects.stored? storage = .ok p? := by
  cases p? with
  | none => simp [Projects.stored?, h]
  | some p => simp [Projects.stored?, h, Project.decode?_encode]

/-- A selection that is written can be restored from then on. -/
theorem stored?_store {sound : σ → Prop} (hd : Dependable sound) {storage : σ} (hs : sound storage)
    (p? : Option Project)
    (hok : (Keeper.store storage Projects.selectionKey (p?.map Record.encode)).outcome = .ok ()) :
    sound (Keeper.store storage Projects.selectionKey (p?.map Record.encode)).storage ∧
      Projects.stored? (Keeper.store storage Projects.selectionKey (p?.map Record.encode)).storage = .ok p? := by
  cases p? with
  | none =>
    obtain ⟨hsound, hload⟩ := hd.remove Projects.selectionKey hs hok
    exact ⟨hsound, stored?_of_load hload⟩
  | some p =>
    have hlegible := (Project.encode_legible p).mono (show 2 ≤ Json.nestingLimit - 1 by decide)
    obtain ⟨hsound, hload⟩ := hd.save Projects.selectionKey hs hlegible hok
    exact ⟨hsound, stored?_of_load hload⟩

theorem attend_single {s : Session σ} {k : Keeper} (h : s.keepers = [k]) :
    s.attend =
      ({ s with
          keepers := [(k.look s.projects Projects.selectionKey s.storage).1]
          storage := (k.look s.projects Projects.selectionKey s.storage).2.1 },
        (k.look s.projects Projects.selectionKey s.storage).2.2) := by
  simp [attend, h, lookAll]

/-- A session in which one keeper is at work, which has last stored `stored`. -/
structure Kept (sound : σ → Prop) (s : Session σ) (k : Keeper) (stored : Option Project) : Prop where
  keepers : s.keepers = [k]
  sound : sound s.storage
  stored? : Projects.stored? s.storage = .ok stored
  last : k.last = stored.map Record.encode
  seen : k.seen ≤ s.projects.state.version
  /-- Since the keeper has looked, the selection is what it was. -/
  selected : k.seen = s.projects.state.version → stored = s.projects.listing.selected

/-- The keeper that is at work is in step with the storage. -/
def IsKept (sound : σ → Prop) (s : Session σ) : Prop :=
  ∃ k stored, Kept sound s k stored

namespace Kept

variable {sound : σ → Prop} {s : Session σ} {k : Keeper} {stored : Option Project}

theorem begin (hkeepers : s.keepers = []) (hsound : sound s.storage)
    (hstored : Projects.stored? s.storage = .ok s.projects.listing.selected) :
    Kept sound s.beginKeeping (Keeper.start s.projects) s.projects.listing.selected :=
  ⟨by rw [beginKeeping, hkeepers]; rfl, hsound, hstored, rfl, Nat.le_refl _, fun _ => rfl⟩

theorem change (h : Kept sound s k stored) {change : Session σ → Session σ} (hchange : Publishes change) :
    Kept sound (change s) k stored := by
  obtain ⟨hstorage, hkeepers, hstate⟩ := hchange s
  refine ⟨hkeepers.trans h.keepers, by rw [hstorage]; exact h.sound, by rw [hstorage]; exact h.stored?,
    h.last, ?_, ?_⟩
  · have hseen := h.seen
    rcases hstate with hsame | hlater
    · rw [hsame]
      exact hseen
    · omega
  · intro hversion
    rcases hstate with hsame | hlater
    · have hlisting : (change s).projects.listing = s.projects.listing := congrArg Published.value hsame
      rw [hsame] at hversion
      rw [hlisting]
      exact h.selected hversion
    · have hseen := h.seen
      omega

/-- A look whose write, if there is one, succeeds. -/
theorem look (hd : Dependable sound) (h : Kept sound s k stored) (hreport : s.attend.2 = []) :
    IsKept sound s.attend.1 := by
  rw [attend_single h.keepers] at hreport ⊢
  have hlooks := Keeper.looks k s.projects Projects.selectionKey s.storage
  generalize k.look s.projects Projects.selectionKey s.storage = l at hlooks hreport ⊢
  cases hlooks with
  | idle hseen => exact ⟨k, stored, rfl, h.sound, h.stored?, h.last, h.seen, h.selected⟩
  | unchanged hseen hsame =>
    have hselected : stored = s.projects.listing.selected := by
      rw [h.last] at hsame
      exact (Project.eq_of_same hsame).symm
    exact ⟨_, stored, rfl, h.sound, h.stored?, h.last, Nat.le_refl _, fun _ => hselected⟩
  | written hseen hdiffers hok =>
    obtain ⟨hsound, hstored⟩ := stored?_store hd h.sound s.projects.listing.selected hok
    exact ⟨_, s.projects.listing.selected, rfl, hsound, hstored, rfl, Nat.le_refl _, fun _ => rfl⟩
  | failed hseen hdiffers hfault => exact absurd hreport (Keeper.report_ne_nil hfault)

end Kept

/-! ## Whole histories -/

theorem play_concat (s : Session σ) (moves : List Move) (m : Move) :
    s.play (moves ++ [m]) = (s.play moves).step m.occurrence :=
  Ensemble.run_map_concat _ Move.occurrence moves m

/-- No look of the keeper reports that a write has failed. -/
def WritesSucceed (s : Session σ) (before later : List Move) : Prop :=
  ∀ done rest, later = done ++ .look :: rest → (s.keep before done).state.attend.2 = []

/-- Before a keeper begins, the effects at work are as usual and nothing is written. -/
theorem play_without_keepers {s : Session σ} (h : s.keepers = []) (before : List Move) :
    (s.play before).state.keepers = [] ∧
      ∀ p ∈ (s.play before).parties, p.Continues (Activity.Each Publishes) := by
  induction before using List.reverseRecOn with
  | nil => exact ⟨h, fun p hp => absurd hp List.not_mem_nil⟩
  | append_singleton before m ih =>
    obtain ⟨hkeepers, hparties⟩ := ih
    rw [play_concat]
    refine ⟨?_, Ensemble.each_step hparties (brings_publishes m)⟩
    have hkeeps : ∀ change : Session σ → Session σ, Publishes change → ∀ s, s.keepers = [] →
        (change s).keepers = [] := fun change hchange s hs => (hchange s).2.1.trans hs
    refine Ensemble.keeps_step hkeeps hparties (brings_publishes m) (fun change hchange => ?_) hkeepers
    cases m with
    | look =>
      obtain rfl := Occurrence.passes.inj hchange
      simp [attend, hkeepers, lookAll]
    | dispatch action =>
      obtain rfl := Occurrence.passes.inj hchange
      exact hkeepers
    | reset =>
      obtain rfl := Occurrence.passes.inj hchange
      exact hkeepers
    | _ => cases hchange

/-- The keeper is in step with the storage at every moment. -/
theorem kept {sound : σ → Prop} (hd : Dependable sound) {s : Session σ} {before later : List Move}
    (hkeepers : s.keepers = []) (hsound : sound (s.play before).state.storage)
    (hstored : Projects.stored? (s.play before).state.storage =
      .ok (s.play before).state.projects.listing.selected)
    (hwrites : s.WritesSucceed before later) :
    IsKept sound (s.keep before later).state ∧
      ∀ p ∈ (s.keep before later).parties, p.Continues (Activity.Each Publishes) := by
  induction later using List.reverseRecOn with
  | nil =>
    obtain ⟨hnone, hparties⟩ := play_without_keepers hkeepers before
    exact ⟨⟨_, _, .begin hnone hsound hstored⟩, hparties⟩
  | append_singleton later m ih =>
    obtain ⟨hkept, hparties⟩ := ih fun done rest heq => hwrites done (rest ++ [m]) (by simp [heq])
    rw [keep_concat]
    refine ⟨?_, Ensemble.each_step hparties (brings_publishes m)⟩
    have hkeeps : ∀ change, Publishes change → ∀ s, IsKept sound s → IsKept sound (change s) := by
      rintro change hchange s ⟨k, stored, h⟩
      exact ⟨k, stored, h.change hchange⟩
    refine Ensemble.keeps_step hkeeps hparties (brings_publishes m) (fun change hchange => ?_) hkept
    cases m with
    | look =>
      obtain rfl := Occurrence.passes.inj hchange
      obtain ⟨k, stored, h⟩ := hkept
      exact h.look hd (hwrites later [] rfl)
    | dispatch action =>
      obtain rfl := Occurrence.passes.inj hchange
      exact hkeeps _ (publishes_dispatch action) _ hkept
    | reset =>
      obtain rfl := Occurrence.passes.inj hchange
      exact hkeeps _ publishes_reset _ hkept
    | _ => cases hchange

end Session

end RunWatch
