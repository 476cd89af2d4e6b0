import RunWatch.Proofs.Selection.Keeping

/-!
# The selection outlives a session

A keeper that begins in step with the storage leaves the selection there: whenever it has seen the latest
publication, a cache that starts anew over the same storage gets the selected project back, and nothing else
(`restart_restores_selection`).  That holds of the storage in memory and of the state file.
-/

namespace RunWatch

namespace Session

variable {σ : Type} [SelectionStorage σ]

/-- What is stored stands for the selection. -/
def StoresSelection (s : Session σ) : Prop :=
  Projects.stored? s.storage = .ok s.projects.listing.selected

/-- A cache that starts anew over the storage is given back the selection, and differs in nothing else from one
that starts without any. -/
def RestoresSelection (s : Session σ) (endpoint : Api.Endpoint Project) : Prop :=
  ∃ restored : Cache Project,
    Projects.restore (.new endpoint) s.storage = .ok (restored, s.projects.listing.selected) ∧
    restored.listing = { Listing.empty Project with selected := s.projects.listing.selected } ∧
    restored.endpoint = endpoint ∧ restored.initial = .empty Project ∧ restored.desk = .fresh

theorem StoresSelection.restores {s : Session σ} (h : s.StoresSelection) (endpoint : Api.Endpoint Project) :
    s.RestoresSelection endpoint := by
  unfold StoresSelection at h
  unfold RestoresSelection
  cases hselected : s.projects.listing.selected with
  | none =>
    rw [hselected] at h
    exact ⟨.new endpoint, by simp [Projects.restore, h], rfl, rfl, rfl, rfl⟩
  | some p =>
    rw [hselected] at h
    refine ⟨(Cache.new endpoint).dispatch (.select (some p)), ?_, rfl, rfl, rfl, rfl⟩
    simp [Projects.restore, h]

/-- A keeper that has seen the latest publication has stored the selection. -/
theorem IsKept.storesSelection {sound : σ → Prop} {s : Session σ} (h : IsKept sound s) (hidle : s.Idle) :
    s.StoresSelection := by
  obtain ⟨k, stored, hkept⟩ := h
  have hseen : k.seen = s.projects.state.version := hidle k (by simp [hkept.keepers])
  rw [StoresSelection, ← hkept.selected hseen]
  exact hkept.stored?

theorem restores_of_dependable {sound : σ → Prop} (hd : Dependable sound) {s : Session σ}
    {before later : List Move} (hkeepers : s.keepers = []) (hsound : sound (s.play before).state.storage)
    (hstored : (s.play before).state.StoresSelection) (hwrites : s.WritesSucceed before later)
    (hidle : (s.keep before later).state.Idle) (endpoint : Api.Endpoint Project) :
    (s.keep before later).state.RestoresSelection endpoint :=
  ((kept hd hkeepers hsound hstored hwrites).1.storesSelection hidle).restores endpoint

end Session

/-- The floating-point numbers in a state file are read back from what they are written as. -/
def StateFile.FloatsLegible (f : StateFile) : Prop :=
  ∀ ms, f.entries = .ok ms → ∀ x, (Json.Value.object ms).Carries (.float x) → (Json.Number.float x).Legible

theorem StateFile.sound_of_stored {f : StateFile} {p? : Option Project} (h : Projects.stored? f = .ok p?)
    (hfloats : f.FloatsLegible) : f.Sound := by
  cases hentries : f.entries with
  | ok ms => exact sound_of_entries hentries (hfloats ms hentries)
  | error fault =>
    have hload : SelectionStorage.load f Projects.selectionKey = .error fault := by
      change f.entries.map _ = _
      rw [hentries]
      rfl
    rw [Projects.stored?, hload] at h
    cases h

/-- A keeper begins over a storage that stands for the selection, effects possibly at work already.  However they
and later ones overlap, and whatever is dispatched or reset in between, as long as no write fails: each time the
keeper has seen the latest publication, the selection outlives the session. -/
theorem restart_restores_selection (endpoint : Api.Endpoint Project) (before later : List Session.Move) :
    (∀ s : Session Memory, s.keepers = [] → (s.play before).state.StoresSelection →
      s.WritesSucceed before later → (s.keep before later).state.Idle →
      (s.keep before later).state.RestoresSelection endpoint) ∧
    (∀ s : Session StateFile, s.keepers = [] → (s.play before).state.StoresSelection →
      (s.play before).state.storage.FloatsLegible →
      s.WritesSucceed before later → (s.keep before later).state.Idle →
      (s.keep before later).state.RestoresSelection endpoint) := by
  refine ⟨fun s hkeepers hstored hwrites hidle => ?_, fun s hkeepers hstored hfloats hwrites hidle => ?_⟩
  · exact Session.restores_of_dependable Memory.dependable hkeepers trivial hstored hwrites hidle endpoint
  · have hsound := StateFile.sound_of_stored hstored hfloats
    exact Session.restores_of_dependable StateFile.dependable hkeepers hsound hstored hwrites hidle endpoint

/-- A project is selected and another one in its place before the keeper looks: it is the second one that the next
session gets back. -/
theorem second_selection_outlives :
    let endpoint : Api.Endpoint Project := .top Project "http://api.test"
    let id (d : Fin 16) : Uuid := ⟨List.replicate 32 d, rfl⟩
    let reply (id : Uuid) (name : String) : Api.Reply := .response ⟨200,
      "\x7b\"id\":\"" ++ id.text ++ "\",\"name\":\"" ++ name ++ "\"\x7d"⟩
    let later : List Session.Move :=
      [.select (id 1), .select (id 2), .reply 0 (reply (id 1) "test"), .reply 1 (reply (id 2) "prod"), .look]
    let memory : Session Memory := ⟨.new endpoint, ⟨[]⟩, []⟩
    let file : Session StateFile := ⟨.new endpoint, ⟨"state.json", ⟨.missing, .absent, .absent, []⟩⟩, []⟩
    (memory.keep [] later).state.RestoresSelection endpoint ∧
      (file.keep [] later).state.RestoresSelection endpoint ∧
      ((file.keep [] later).state.projects.listing.selected.map fun p => p.profile.name) = some "prod" := by
  intro endpoint id reply later memory file
  have hlook : ∀ done rest, later = done ++ .look :: rest →
      done = [.select (id 1), .select (id 2), .reply 0 (reply (id 1) "test"), .reply 1 (reply (id 2) "prod")] := by
    intro done rest heq
    rcases done with _ | ⟨a, _ | ⟨b, _ | ⟨c, _ | ⟨d, _ | ⟨e, done⟩⟩⟩⟩⟩
    · simp [later] at heq
    · simp [later] at heq
    · simp [later] at heq
    · simp [later] at heq
    · simp only [later, List.cons_append, List.nil_append, List.cons.injEq] at heq
      obtain ⟨rfl, rfl, rfl, rfl, -⟩ := heq
      rfl
    · simp [later] at heq
  refine ⟨?_, ?_, by decide +kernel⟩
  · refine (restart_restores_selection endpoint [] later).1 memory rfl rfl (fun done rest heq => ?_) ?_
    · rw [hlook done rest heq]
      decide +kernel
    · decide +kernel
  · refine (restart_restores_selection endpoint [] later).2 file rfl rfl ?_ (fun done rest heq => ?_) ?_
    · intro ms hms x hx
      cases hms
      cases hx with
      | member hm h => cases hm
    · rw [hlook done rest heq]
      decide +kernel
    · decide +kernel

end RunWatch
