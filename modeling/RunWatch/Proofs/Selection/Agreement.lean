import Mathlib.Data.List.Induction
import RunWatch.Platform.TestOutcome
import RunWatch.Proofs.Cache.Overlap
import RunWatch.Proofs.Platform.Project
import RunWatch.Proofs.Selection.Keeper
import RunWatch.Proofs.Selection.StateFile

/-!
# The keeper and its storage agree

A keeper watches a cache of records of any type while effects on the cache overlap, and stores the selection
under one key of a storage whose writes may fail at any time.  All that is asked of the storage is `Obliging`: a
write that succeeds can be found, and one that fails changes nothing.  Memory is such a storage, a state file is,
and either is when some of its writes are refused.

The invariant is `Vigil.Kept`: what is stored is what the keeper has stored last, and if the keeper has seen the
latest publication, that is the selection exactly if no write failed then.
-/

namespace RunWatch

open Json (Value)

/-! ## What is asked of a storage -/

/-- A storage that does what it is asked under one key, as long as it is in a sound state and the values are
storable: what is stored there is found, and a write that fails leaves what is found as it was. -/
structure Obliging {σ : Type} [SelectionStorage σ] (key : String) (storable : Value → Prop) (sound : σ → Prop) :
    Prop where
  keeps {s : σ} {v? : Option Value} (hs : sound s) (hv : ∀ v ∈ v?, storable v) : sound (Keeper.store s key v?).storage
  stored {s : σ} {v? : Option Value} (hs : sound s) (hv : ∀ v ∈ v?, storable v)
    (hok : (Keeper.store s key v?).outcome = .ok ()) :
    SelectionStorage.load (Keeper.store s key v?).storage key = .ok v?
  refused {s : σ} {v? : Option Value} {fault : CacheFault} (hs : sound s)
    (hfault : (Keeper.store s key v?).outcome = .error fault) :
    SelectionStorage.load (Keeper.store s key v?).storage key = SelectionStorage.load s key

theorem Memory.obliging (key : String) : Obliging key (fun _ => True) fun _ : Memory => True where
  keeps _ _ := trivial
  stored {m v?} _ _ _ := by
    cases v? with
    | none => exact congrArg Except.ok (Json.Members.find?_erase_self key m.entries)
    | some v => exact congrArg Except.ok ((Json.Members.find?_insert key key v m.entries).trans (if_pos rfl))
  refused {m v? fault} _ hfault := by
    cases v? <;> cases hfault

namespace StateFile

theorem entries_of_refused {f : StateFile} {key : String} {v? : Option Value} {fault : CacheFault}
    (hfault : (Keeper.store f key v?).outcome = .error fault) :
    (Keeper.store f key v?).storage.entries = f.entries := by
  cases v? with
  | none =>
    have hremoved : (f.written (removing key)).outcome = .error fault := hfault
    exact entries_of_failed hremoved
  | some v =>
    have hsaved : (f.written (saving key v)).outcome = .error fault := hfault
    exact entries_of_failed hsaved

theorem obliging (key : String) : Obliging key (fun v => v.Legible (Json.nestingLimit - 1)) Sound where
  keeps {f v?} hs hv := by
    cases houtcome : (Keeper.store f key v?).outcome with
    | ok u =>
      cases v? with
      | none => exact (dependable.remove key hs houtcome).1
      | some v => exact (dependable.save key hs (hv v rfl) houtcome).1
    | error fault =>
      have hentries : (Keeper.store f key v?).storage.entries = f.entries := entries_of_refused houtcome
      obtain ⟨ms, hms, hlegible⟩ := hs
      exact ⟨ms, hentries.trans hms, hlegible⟩
  stored {f v?} hs hv hok := by
    cases v? with
    | none => exact (dependable.remove key hs hok).2
    | some v => exact (dependable.save key hs (hv v rfl) hok).2
  refused {f v? fault} _ hfault := congrArg (Except.map (Json.Members.find? key)) (entries_of_refused hfault)

end StateFile

namespace Refusing

variable {σ : Type} [SelectionStorage σ]

/-- The next write is refused without effect, or it is a write to the storage within. -/
theorem store_cases (r : Refusing σ) (key : String) (v? : Option Value) :
    (∃ fault n, Keeper.store r key v? = .refused { r with refusals := n } fault) ∨
      Keeper.store r key v? = (Keeper.store r.inner key v?).lift (⟨·, 0⟩) := by
  obtain ⟨inner, refusals⟩ := r
  cases refusals with
  | zero => exact .inr (by cases v? <;> rfl)
  | succ n => exact .inl ⟨_, n, by cases v? <;> rfl⟩

theorem obliging {key : String} {storable : Value → Prop} {sound : σ → Prop} (h : Obliging key storable sound) :
    Obliging key storable fun r : Refusing σ => sound r.inner where
  keeps {r v?} hs hv := by
    rcases store_cases r key v? with ⟨fault, n, hstore⟩ | hstore
    · rw [hstore]
      exact hs
    · rw [hstore]
      exact h.keeps hs hv
  stored {r v?} hs hv hok := by
    rcases store_cases r key v? with ⟨fault, n, hstore⟩ | hstore
    · rw [hstore] at hok
      cases hok
    · rw [hstore] at hok ⊢
      exact h.stored hs hv hok
  refused {r v? fault} hs hfault := by
    rcases store_cases r key v? with ⟨fault', n, hstore⟩ | hstore
    · rw [hstore]
      rfl
    · rw [hstore] at hfault ⊢
      exact h.refused hs hfault

end Refusing

/-! ## Storages that note what they are asked for -/

/-- A storage together with the writes it has been asked for, the first one in front. -/
structure Journaled (σ : Type) where
  inner : σ
  calls : List (String × Option Value)

namespace Journaled

variable {σ : Type} [SelectionStorage σ]

instance : SelectionStorage (Journaled σ) where
  load j key := SelectionStorage.load j.inner key
  save j key value := (SelectionStorage.save j.inner key value).lift (⟨·, j.calls ++ [(key, some value)]⟩)
  remove j key := (SelectionStorage.remove j.inner key).lift (⟨·, j.calls ++ [(key, none)]⟩)

theorem store_eq (j : Journaled σ) (key : String) (v? : Option Value) :
    Keeper.store j key v? = (Keeper.store j.inner key v?).lift (⟨·, j.calls ++ [(key, v?)]⟩) := by
  cases v? <;> rfl

theorem obliging {key : String} {storable : Value → Prop} {sound : σ → Prop} (h : Obliging key storable sound) :
    Obliging key storable fun j : Journaled σ => sound j.inner where
  keeps {j v?} hs hv := by
    rw [store_eq]
    exact h.keeps hs hv
  stored {j v?} hs hv hok := by
    rw [store_eq] at hok ⊢
    exact h.stored hs hv hok
  refused {j v? fault} hs hfault := by
    rw [store_eq] at hfault ⊢
    exact h.refused hs hfault

end Journaled

/-! ## Histories -/

/-- A cache, the keeper that watches it, and the storage behind the keeper. -/
structure Vigil (R σ : Type) where
  cache : Cache R
  keeper : Keeper
  storage : Journaled σ
  /-- What was reported when the keeper last had something to see. -/
  report : List LogEntry

namespace Vigil

variable {R σ : Type}

/-- The keeper has seen the latest publication. -/
def Idle (v : Vigil R σ) : Prop :=
  v.keeper.seen = v.cache.state.version

instance (v : Vigil R σ) : Decidable v.Idle :=
  inferInstanceAs (Decidable (v.keeper.seen = v.cache.state.version))

/-- What can happen while a keeper is at work. -/
inductive Move (R : Type) where
  /-- Something happens to the cache. -/
  | happens (m : Cache.Move R)
  /-- The keeper looks at the cache. -/
  | look

/-- A change of the cache under watch that is published if it changes the listing. -/
def Publishes (change : Vigil R σ → Vigil R σ) : Prop :=
  ∀ v, (change v).keeper = v.keeper ∧ (change v).storage = v.storage ∧ (change v).report = v.report ∧
    ((change v).cache.state = v.cache.state ∨ v.cache.state.version < (change v).cache.state.version)

variable [Record R] [SelectionStorage σ]

/-- The look of the keeper, which stores under a key. -/
def look (key : String) (v : Vigil R σ) : Vigil R σ :=
  let (keeper, storage, entries) := v.keeper.look v.cache key v.storage
  { v with keeper, storage, report := if v.Idle then v.report else entries }

/-- The keeper begins; what it finds selected counts as stored. -/
def begin (v : Vigil R σ) : Vigil R σ :=
  { v with keeper := .start v.cache, report := [] }

/-- A move of the cache as it happens under watch. -/
def happening (m : Cache.Move R) : Occurrence (Vigil R σ) (Cache.Outcome R) :=
  m.occurrence.within Vigil.cache fun cache v => { v with cache }

def Move.occurrence (key : String) : Move R → Occurrence (Vigil R σ) (Cache.Outcome R)
  | happens m => happening m
  | look => .passes (Vigil.look key)

/-- A cache and its effects after some moves, and the keeper that begins after them. -/
def begun (c : Cache R) (storage : σ) (before : List (Cache.Move R)) : Ensemble (Vigil R σ) (Cache.Outcome R) :=
  ((Ensemble.alone ⟨c, .start c, ⟨storage, []⟩, []⟩).run (before.map happening)).step (.passes begin)

/-- A cache that is watched from some point on. -/
def keep (key : String) (c : Cache R) (storage : σ) (before : List (Cache.Move R)) (later : List (Move R)) :
    Ensemble (Vigil R σ) (Cache.Outcome R) :=
  (begun c storage before).run (later.map (Move.occurrence key))

theorem keep_concat (key : String) (c : Cache R) (storage : σ) (before : List (Cache.Move R))
    (later : List (Move R)) (m : Move R) :
    keep key c storage before (later ++ [m]) = (keep key c storage before later).step (m.occurrence key) :=
  Ensemble.run_map_concat _ (Move.occurrence key) later m

theorem keep_happens (key : String) (c : Cache R) (storage : σ) (before : List (Cache.Move R))
    (later : List (Move R)) (more : List (Cache.Move R)) :
    keep key c storage before (later ++ more.map .happens) =
      (keep key c storage before later).run (more.map happening) := by
  rw [keep, List.map_append, Ensemble.run_append, List.map_map]
  rfl

omit [SelectionStorage σ] in
/-- What happens to the cache is published, and touches nothing else. -/
theorem happening_makes (m : Cache.Move R) : (happening (σ := σ) m).Makes Publishes := by
  have hcache : m.occurrence.Makes Cache.Publishes := by
    cases m with
    | issue effect => exact Cache.perform_publishes effect
    | reply i r => trivial
    | dispatch change => exact Cache.publishes_dispatch change
    | reset => exact Cache.publishes_reset
  exact hcache.within fun change hchange v => ⟨rfl, rfl, rfl, hchange v.cache⟩

omit [SelectionStorage σ] in
theorem happenings_make (moves : List (Cache.Move R)) :
    ∀ o ∈ moves.map (happening (σ := σ)), o.Makes Publishes := by
  intro o ho
  obtain ⟨m, -, rfl⟩ := List.mem_map.mp ho
  exact happening_makes m

omit [SelectionStorage σ] in
/-- Whatever happens to the cache, the keeper and the storage stay as they are. -/
theorem run_happenings {e : Ensemble (Vigil R σ) (Cache.Outcome R)}
    (he : ∀ p ∈ e.parties, p.Continues (Activity.Each Publishes)) (moves : List (Cache.Move R)) :
    (e.run (moves.map happening)).state.keeper = e.state.keeper ∧
      (e.run (moves.map happening)).state.storage = e.state.storage := by
  have hkeeps : ∀ change, Publishes change → ∀ v : Vigil R σ,
      v.keeper = e.state.keeper ∧ v.storage = e.state.storage →
      (change v).keeper = e.state.keeper ∧ (change v).storage = e.state.storage := by
    rintro change hchange v ⟨hkeeper, hstorage⟩
    obtain ⟨hkeeper', hstorage', -, -⟩ := hchange v
    exact ⟨hkeeper'.trans hkeeper, hstorage'.trans hstorage⟩
  exact Ensemble.keeps_run_of_makes hkeeps he (happenings_make moves) ⟨rfl, rfl⟩

omit [SelectionStorage σ] in
theorem begun_publish (c : Cache R) (storage : σ) (before : List (Cache.Move R)) :
    ∀ p ∈ (begun c storage before).parties, p.Continues (Activity.Each Publishes) := by
  have hbrings : ∀ o ∈ before.map (happening (σ := σ)), o.Brings Publishes :=
    fun o ho => (happenings_make before o ho).brings
  exact Ensemble.each_step (Ensemble.each_run (fun _ hp => absurd hp List.not_mem_nil) hbrings) trivial

omit [SelectionStorage σ] in
theorem begun_storage (c : Cache R) (storage : σ) (before : List (Cache.Move R)) :
    (begun c storage before).state.storage = ⟨storage, []⟩ :=
  (run_happenings (fun _ hp => absurd hp List.not_mem_nil) before).2

/-- The effects at work publish what they change. -/
theorem keep_publish (key : String) (c : Cache R) (storage : σ) (before : List (Cache.Move R))
    (later : List (Move R)) :
    ∀ p ∈ (keep key c storage before later).parties, p.Continues (Activity.Each Publishes) := by
  refine Ensemble.each_run (begun_publish c storage before) fun o ho => ?_
  obtain ⟨m, -, rfl⟩ := List.mem_map.mp ho
  cases m with
  | happens m => exact (happening_makes m).brings
  | look => trivial

/-! ## What is kept -/

/-- What is known of a keeper at work, at every moment. -/
structure Kept (key : String) (sound : σ → Prop) (v : Vigil R σ) (stored : Option Value) : Prop where
  sound : sound v.storage.inner
  load : SelectionStorage.load v.storage key = .ok stored
  last : Keeper.Same stored v.keeper.last
  seen : v.keeper.seen ≤ v.cache.state.version
  /-- Once the latest publication has been seen, the selection is stored unless a write failed then. -/
  settled : v.Idle → (v.report = [] ↔ Keeper.Same stored (Keeper.selection v.cache))

namespace Kept

variable {key : String} {storable : Value → Prop} {sound : σ → Prop} {v : Vigil R σ} {stored : Option Value}

theorem change (h : Kept key sound v stored) {change : Vigil R σ → Vigil R σ} (hchange : Publishes change) :
    Kept key sound (change v) stored := by
  obtain ⟨hkeeper, hstorage, hreport, hstate⟩ := hchange v
  have hseen := h.seen
  refine ⟨by rw [hstorage]; exact h.sound, by rw [hstorage]; exact h.load, by rw [hkeeper]; exact h.last, ?_, ?_⟩
  · rw [hkeeper]
    rcases hstate with hsame | hlater
    · rw [hsame]
      exact hseen
    · omega
  · intro hidle
    rw [Idle, hkeeper] at hidle
    rcases hstate with hsame | hlater
    · have hselection : Keeper.selection (change v).cache = Keeper.selection v.cache :=
        congrArg (fun p : Published (Listing R) => p.value.selected.map Record.encode) hsame
      rw [hreport, hselection]
      rw [hsame] at hidle
      exact h.settled hidle
    · omega

theorem look (ho : Obliging key storable sound) (hstorable : ∀ r : R, storable (Record.encode r))
    (h : Kept key sound v stored) : ∃ stored', Kept key sound (v.look key) stored' := by
  have hselection : ∀ x ∈ Keeper.selection v.cache, storable x := by
    intro x hx
    obtain ⟨r, -, rfl⟩ := Option.map_eq_some_iff.mp hx
    exact hstorable r
  have hlooks := Keeper.looks v.keeper v.cache key v.storage
  unfold Vigil.look
  generalize v.keeper.look v.cache key v.storage = l at hlooks ⊢
  cases hlooks with
  | idle hseen => exact ⟨stored, h.sound, h.load, h.last, h.seen, by simpa [Idle, hseen] using h.settled hseen⟩
  | unchanged hseen hsame =>
    have hstored : Keeper.Same stored (Keeper.selection v.cache) := h.last.trans hsame.symm
    refine ⟨stored, h.sound, h.load, h.last, Nat.le_refl _, fun _ => ?_⟩
    simp [Idle, hseen, hstored]
  | written hseen hdiffers hok =>
    have hload := (Journaled.obliging ho).stored h.sound hselection hok
    refine ⟨Keeper.selection v.cache, (Journaled.obliging ho).keeps h.sound hselection, hload, rfl, Nat.le_refl _, fun _ => ?_⟩
    simp [Idle, hseen, Keeper.Same]
  | failed hseen hdiffers hfault =>
    have hload := (Journaled.obliging ho).refused h.sound hfault
    have hstored : ¬ Keeper.Same stored (Keeper.selection v.cache) := fun hsame => hdiffers (hsame.symm.trans h.last)
    refine ⟨stored, (Journaled.obliging ho).keeps h.sound hselection, hload.trans h.load, h.last, Nat.le_refl _, fun _ => ?_⟩
    simp [Idle, hseen, hstored, Keeper.report_ne_nil hfault]

/-- The writes that a look asks for. -/
theorem calls_look (h : Kept key sound v stored) :
    (v.look key).storage.calls = v.storage.calls ++
      if v.Idle ∨ Keeper.Same (Keeper.selection v.cache) stored then [] else [(key, Keeper.selection v.cache)] := by
  have hlast : Keeper.Same (Keeper.selection v.cache) stored ↔ Keeper.Same (Keeper.selection v.cache) v.keeper.last :=
    ⟨fun hsame => hsame.trans h.last, fun hsame => hsame.trans h.last.symm⟩
  have hlooks := Keeper.looks v.keeper v.cache key v.storage
  unfold Vigil.look
  generalize v.keeper.look v.cache key v.storage = l at hlooks ⊢
  cases hlooks with
  | idle hseen => simp [Idle, hseen]
  | unchanged hseen hsame => simp [hlast, hsame]
  | written hseen hdiffers hok => simp [Idle, hseen, hlast, hdiffers, Journaled.store_eq, Written.lift]
  | failed hseen hdiffers hfault => simp [Idle, hseen, hlast, hdiffers, Journaled.store_eq, Written.lift]

end Kept

/-! ## Whole histories -/

theorem kept {key : String} {storable : Value → Prop} {sound : σ → Prop} (ho : Obliging key storable sound)
    (hstorable : ∀ r : R, storable (Record.encode r)) {c : Cache R} {storage : σ} {before : List (Cache.Move R)}
    {stored : Option Value} (hsound : sound storage) (hload : SelectionStorage.load storage key = .ok stored)
    (hbegin : Keeper.Same stored (Keeper.selection (begun c storage before).state.cache)) (later : List (Move R)) :
    ∃ stored', Kept key sound (keep key c storage before later).state stored' := by
  induction later using List.reverseRecOn with
  | nil =>
    have hstorage := begun_storage c storage before
    refine ⟨stored, ?_, ?_, hbegin, Nat.le_refl _, fun _ => ⟨fun _ => hbegin, fun _ => rfl⟩⟩
    · change sound (begun c storage before).state.storage.inner
      rw [hstorage]
      exact hsound
    · change SelectionStorage.load (begun c storage before).state.storage key = .ok stored
      rw [hstorage]
      exact hload
  | append_singleton later m ih =>
    obtain ⟨stored', hkept⟩ := ih
    rw [keep_concat]
    cases m with
    | happens m =>
      have hkeeps : ∀ change, Publishes change → ∀ v : Vigil R σ, Kept key sound v stored' →
          Kept key sound (change v) stored' := fun change hchange v h => h.change hchange
      have hparties := keep_publish key c storage before later
      exact ⟨stored', Ensemble.keeps_step_of_makes hkeeps hparties (happening_makes m) hkept⟩
    | look => exact hkept.look ho hstorable

/-- The keeper and its storage are in step: what is stored is what the keeper has stored last, which is the
selection once the latest publication has been seen without a failed write; and a look asks for a write if there
is something new to see and the selection differs from what is stored, and for none otherwise. -/
structure InStep (key : String) (v : Vigil R σ) (stored : Option Value) : Prop where
  load : SelectionStorage.load v.storage key = .ok stored
  last : Keeper.Same stored v.keeper.last
  settled : v.Idle → v.report = [] → Keeper.Same stored (Keeper.selection v.cache)
  calls : (v.look key).storage.calls = v.storage.calls ++
    if v.Idle ∨ Keeper.Same (Keeper.selection v.cache) stored then [] else [(key, Keeper.selection v.cache)]

end Vigil

/-- A keeper begins to watch a cache, of any type of records and with effects at work already, while the selection
is what is stored under its key.  Whatever happens to the cache from then on, however many publications fall
together in one look and whichever writes fail: the keeper and its storage are in step at every moment, and no
write is asked for between looks.  If the last write failed, the next look at a publication repeats it, though the
selection is still the same. -/
theorem keeper_in_step_with_storage {R : Type} [Record R] {σ : Type} [SelectionStorage σ] {key : String}
    {storable : Value → Prop} {sound : σ → Prop} (ho : Obliging key storable sound)
    (hstorable : ∀ r : R, storable (Record.encode r)) {c : Cache R} {storage : σ} {before : List (Cache.Move R)}
    {stored : Option Value} (hsound : sound storage) (hload : SelectionStorage.load storage key = .ok stored)
    (hbegin : Keeper.Same stored (Keeper.selection (Vigil.begun c storage before).state.cache))
    (later : List (Vigil.Move R)) :
    let v := (Vigil.keep key c storage before later).state
    (∃ stored', v.InStep key stored') ∧
      ∀ more : List (Cache.Move R),
        let w := (Vigil.keep key c storage before (later ++ more.map .happens)).state
        w.storage = v.storage ∧
          (v.Idle → v.report ≠ [] → ¬ w.Idle → Keeper.Same (Keeper.selection w.cache) (Keeper.selection v.cache) →
            (w.look key).storage.calls = w.storage.calls ++ [(key, Keeper.selection w.cache)]) := by
  intro v
  obtain ⟨stored', hkept⟩ := Vigil.kept ho hstorable hsound hload hbegin later
  refine ⟨⟨stored', hkept.load, hkept.last, fun hidle => (hkept.settled hidle).mp, hkept.calls_look⟩, fun more => ?_⟩
  intro w
  have hstorage : w.storage = v.storage := by
    have hrun := Vigil.run_happenings (Vigil.keep_publish key c storage before later) more
    rw [← Vigil.keep_happens] at hrun
    exact hrun.2
  refine ⟨hstorage, fun hidle hfailed hnew hsame => ?_⟩
  obtain ⟨stored'', hkept'⟩ := Vigil.kept ho hstorable hsound hload hbegin (later ++ more.map .happens)
  have heq : stored'' = stored' := by
    have hload' := hkept'.load
    rw [hstorage, hkept.load] at hload'
    exact (Except.ok.inj hload').symm
  have hdiffers : ¬ Keeper.Same (Keeper.selection w.cache) stored'' := by
    intro h
    exact hfailed ((hkept.settled hidle).mpr (heq ▸ h.symm.trans hsame))
  rw [hkept'.calls_look, if_neg (not_or.mpr ⟨hnew, hdiffers⟩)]

/-- A record is selected and the write is refused: the next look, at a publication that leaves the selection as it
is, writes it again.  So it is for outcomes of tests kept in memory and for projects kept in a file. -/
theorem refused_write_repeated :
    let key := "selected"
    let id : Uuid := ⟨List.replicate 32 1, rfl⟩
    let test : TestOutcome :=
      ⟨id, "freshness", .failed, none, none, none, ⟨id, none, none, none⟩, some (.finite (.zero true)), none⟩
    let project : Project := ⟨⟨id, "prod", none, none, none, true⟩⟩
    let tests : Cache TestOutcome := .new (.top TestOutcome "http://api.test")
    let projects : Cache Project := .new (.top Project "http://api.test")
    let memory : Refusing Memory := ⟨⟨[]⟩, 1⟩
    let file : Refusing StateFile := ⟨⟨"state.json", ⟨.missing, .absent, .absent, []⟩⟩, 1⟩
    let later {R : Type} (r : R) : List (Vigil.Move R) :=
      [.happens (.dispatch (.select (some r))), .look, .happens (.dispatch (.foundAll (.empty R)))]
    let v := (Vigil.keep key tests memory [] (later test)).state
    let w := (Vigil.keep key projects file [] (later project)).state
    SelectionStorage.load v.storage key = .ok none ∧ SelectionStorage.load w.storage key = .ok none ∧
      (v.look key).storage.calls = [(key, some (Record.encode test)), (key, some (Record.encode test))] ∧
      (w.look key).storage.calls = [(key, some (Record.encode project)), (key, some (Record.encode project))] := by
  intro key id test project tests projects memory file later v w
  have htests : Keeper.Same none (Keeper.selection (Vigil.begun tests memory []).state.cache) := rfl
  have hprojects : Keeper.Same none (Keeper.selection (Vigil.begun projects file []).state.cache) := rfl
  have hmemory : SelectionStorage.load memory key = .ok none := rfl
  have hfile : SelectionStorage.load file key = .ok none := rfl
  have hsound : StateFile.Sound file.inner := ⟨[], rfl, .object Json.Members.sorted_nil nofun⟩
  have hlegible (p : Project) : (Record.encode p).Legible (Json.nestingLimit - 1) :=
    (Project.encode_legible p).mono (by decide)
  have hv := (keeper_in_step_with_storage (Refusing.obliging (Memory.obliging key)) (fun _ => trivial) trivial hmemory
    htests [.happens (.dispatch (.select (some test))), .look]).2 [.dispatch (.foundAll (.empty _))]
  have hw := (keeper_in_step_with_storage (Refusing.obliging (StateFile.obliging key)) hlegible hsound hfile
    hprojects [.happens (.dispatch (.select (some project))), .look]).2 [.dispatch (.foundAll (.empty _))]
  refine ⟨rfl, rfl, ?_, ?_⟩
  · exact hv.2 (by decide) (by decide) (by decide) rfl
  · exact hw.2 (by decide) (by decide) (by decide) rfl

end RunWatch
