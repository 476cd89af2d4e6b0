import RunWatch.Proofs.Selection.Keeping
import RunWatch.Proofs.Selection.Recovery
import RunWatch.Watch.Startup

/-!
# When watching begins

A start is a dialogue of one request at most, so what comes of it can be said in advance: of the environment, of the
state file and of the reply to that request.  The settings have to serve (`Serves`), a project has to be known before
anything is sent (`NamesProject`), and the platform has to answer with a project; nothing else keeps watching from
beginning, and none of the three can be missing (`watching_begins_iff`).

A variable is read as text.  One that names a project has to hold the identifier of a project, and nothing begins if it
holds any other text; but if it does not hold text at all, it counts as one that is not set, and the project of the
state file is watched in its place (`unreadable_project_passed_over`).

The keeper begins when the stored selection has been brought back, as far as it can be.  So it takes the fetched project
for stored exactly if that is the project that was brought back, and saves it otherwise (`keepSelection_cases`).
-/

namespace RunWatch

/-! ## Dialogues held to their end -/

namespace Api.Dialogue

/-- The requests that a dialogue sends until it is over. -/
def sent (reply : Request → Reply) : Dialogue α → List Request
  | answer _ => []
  | ask request next => request :: (next (reply request)).sent reply
  | note _ next => next.sent reply

variable {α β : Type} (reply : Request → Reply) (d : Dialogue α)

theorem sent_map (f : α → β) : (d.map f).sent reply = d.sent reply := by
  induction d with
  | answer a => rfl
  | ask request next ih => exact congrArg (request :: ·) (ih (reply request))
  | note entry next ih => exact ih

theorem hold_map (f : α → β) : ((d.map f).hold reply).2 = f (d.hold reply).2 := by
  induction d with
  | answer a => rfl
  | ask request next ih => exact ih (reply request)
  | note entry next ih => exact ih

end Api.Dialogue

namespace Watch

theorem sent_logging {α : Type} (reply : Api.Request → Api.Reply) (entries : List LogEntry) (next : Api.Dialogue α) :
    (logging entries next).sent reply = next.sent reply := by
  induction entries with
  | nil => rfl
  | cons entry entries ih => exact ih

theorem hold_logging {α : Type} (reply : Api.Request → Api.Reply) (entries : List LogEntry) (next : Api.Dialogue α) :
    ((logging entries next).hold reply).2 = (next.hold reply).2 := by
  induction entries with
  | nil => rfl
  | cons entry entries ih => exact ih

/-! ## Disks -/

namespace Disks

theorem put_fileAt (disks : Disks) (path : String) : disks.put (disks.fileAt path) = disks := by
  funext other
  unfold put fileAt
  split
  · rename_i h
    rw [h]
  · rfl

theorem fileAt_put {disks : Disks} {file : StateFile} {path : String} (h : file.path = path) :
    (disks.put file).fileAt path = file := by
  subst h
  rw [fileAt, put, if_pos rfl]

theorem put_of_ne {disks : Disks} {file : StateFile} {path : String} (h : path ≠ file.path) :
    disks.put file path = disks path :=
  if_neg h

end Disks

/-! ## What is known before anything is sent -/

/-- The settings that the environment gives, if they serve. -/
def Serves (env : Environment) (s : Settings) : Prop :=
  Settings.ofEnvironment env = .ok s ∧ s.check = .ok ()

/-- The project that a state file stands for. -/
def Stores (file : StateFile) (id : Uuid) : Prop :=
  ∃ p, Projects.stored? file = .ok (some p) ∧ p.profile.id = id

/-- The project that is known at the start: the text of the variable names it, unless there is none or it is blank; then
it is the one that the state file stands for. -/
def NamesProject (env : Environment) (file : StateFile) (id : Uuid) : Prop :=
  match (env.text? Settings.projectVariable).filter fun text => !Text.isBlankText text with
  | some text => Uuid.ofText? (Text.trim text) = some id
  | none => Stores file id

/-- The project that the rule for the variable allows: what it holds has to be text and, if that is not blank, to name
the project; the state file decides if it is blank or not set. -/
def Designates (env : Environment) (file : StateFile) (id : Uuid) : Prop :=
  match env Settings.projectVariable with
  | none => Stores file id
  | some bytes => ∃ text, String.fromUTF8? bytes = some text ∧
      if Text.isBlankText text then Stores file id else Uuid.ofText? (Text.trim text) = some id

/-- The rule for the variable is kept, except if it does not hold text and the state file stands for a project. -/
theorem designates_iff (env : Environment) (file : StateFile) :
    (∀ id, NamesProject env file id ↔ Designates env file id) ↔
      ¬(env.isUnreadable Settings.projectVariable = true ∧ ∃ id, Stores file id) := by
  unfold NamesProject Designates Environment.isUnreadable Environment.isSet Environment.text?
  cases env Settings.projectVariable with
  | none => simp
  | some bytes =>
    cases htext : String.fromUTF8? bytes with
    | none => simp [htext]
    | some text =>
      by_cases hblank : Text.isBlankText text = true
      · simp [htext, Option.filter, hblank]
      · simp [htext, Option.filter, hblank]

/-- The request for a project. -/
def fetchRequest (s : Settings) (id : Uuid) : Api.Request :=
  (Api.Client.ofSettings s.api).projects.getRequest id

theorem startSettings_eq_ok {env : Environment} {s : Settings} : startSettings env = .ok s ↔ Serves env s := by
  unfold startSettings Serves
  cases hs : Settings.ofEnvironment env with
  | error fault => simp
  | ok s' =>
    cases hcheck : s'.check with
    | error fault =>
      simp only [hcheck, reduceCtorEq, false_iff, not_and, Except.ok.injEq]
      rintro rfl
      simp [hcheck]
    | ok u =>
      simp only [hcheck, Except.ok.injEq]
      constructor
      · rintro rfl
        exact ⟨rfl, hcheck⟩
      · exact fun h => h.1

/-- The project of the settings is the one that the variable names. -/
theorem readProject_of_ofEnvironment {env : Environment} {s : Settings} (h : Settings.ofEnvironment env = .ok s) :
    Settings.readProject (env.text? Settings.projectVariable) = .ok s.project := by
  unfold Settings.ofEnvironment at h
  cases hapi : Settings.readApi env with
  | error fault =>
    rw [hapi] at h
    cases h
  | ok api =>
    cases hproject : Settings.readProject (env.text? Settings.projectVariable) with
    | error fault =>
      rw [hapi, hproject] at h
      cases h
    | ok project =>
      rw [hapi, hproject] at h
      obtain rfl := Except.ok.inj h
      rfl

/-- The stored project, if there is one that can be brought back. -/
def storedProject? (file : StateFile) : Option Project :=
  match Projects.stored? file with
  | .ok p? => p?
  | .error _ => none

theorem storedProject?_eq_some {file : StateFile} {p : Project} :
    storedProject? file = some p ↔ Projects.stored? file = .ok (some p) := by
  unfold storedProject?
  cases Projects.stored? file with
  | error fault => exact ⟨nofun, nofun⟩
  | ok p? => exact ⟨congrArg Except.ok, Except.ok.inj⟩

theorem restored_selected (s : Settings) (file : StateFile) :
    (restored s file).1.listing.selected = storedProject? file := by
  unfold restored Projects.restore storedProject?
  cases Projects.stored? file with
  | error fault => rfl
  | ok p? => cases p? <;> rfl

theorem restored_endpoint (s : Settings) (file : StateFile) :
    (restored s file).1.endpoint = (Api.Client.ofSettings s.api).projects := by
  unfold restored Projects.restore
  cases Projects.stored? file with
  | error fault => rfl
  | ok p? => cases p? <;> rfl

/-- The project to watch is the one that is known. -/
theorem projectToWatch?_eq_some {env : Environment} {s : Settings} (hs : Serves env s) {file : StateFile} {id : Uuid} :
    projectToWatch? s (restored s file).1 = some id ↔ NamesProject env file id := by
  have hread := readProject_of_ofEnvironment hs.1
  unfold Settings.readProject at hread
  unfold projectToWatch? NamesProject
  cases htext : (env.text? Settings.projectVariable).filter fun text => !Text.isBlankText text with
  | none =>
    rw [htext] at hread
    obtain hproject := Except.ok.inj hread
    rw [← hproject, restored_selected]
    simp only [Option.map_eq_some_iff, storedProject?_eq_some]
    rfl
  | some text =>
    rw [htext] at hread
    cases hid : Uuid.ofText? (Text.trim text) with
    | none =>
      simp only [hid] at hread
      cases hread
    | some id' =>
      simp only [hid] at hread
      rw [← Except.ok.inj hread]
      simp only [hid]

/-! ## What the keeper makes of the fetched project -/

/-- The projects once a project has been fetched. -/
def fetched (projects : Cache Project) (project : Project) : Cache Project :=
  (projects.takeTicket false).1.settle (projects.takeTicket false).2 (.gotOne project)

/-- A fetched project is singled out, and that is published. -/
theorem fetched_eq (projects : Cache Project) (project : Project) :
    (fetched projects project).listing.selected = some project ∧
      (fetched projects project).state.version = projects.state.version + 1 := by
  have haccepts : (projects.takeTicket false).1.accepts (projects.takeTicket false).2 = true := by
    simp [Cache.takeTicket, Cache.accepts, TicketDesk.take, TicketDesk.single, TicketDesk.isCurrent]
  have hfetched : fetched projects project = (projects.takeTicket false).1.dispatch (.gotOne project) := if_pos haccepts
  rw [hfetched]
  refine ⟨?_, rfl⟩
  change (projects.listing.apply projects.initial (.gotOne project)).selected = some project
  rw [Listing.apply]
  split <;> rfl

/-- What the keeper does with a project when it is saved. -/
def saveProject (file : StateFile) (project : Project) : Written StateFile :=
  SelectionStorage.save file Projects.selectionKey (Record.encode project)

/-- The keeper takes the fetched project for stored if it was selected before, and saves it otherwise. -/
theorem keepSelection_cases (file : StateFile) (projects : Cache Project) (project : Project) :
    projects.listing.selected = some project ∧ (keepSelection file projects (fetched projects project)).1 = file ∨
      projects.listing.selected ≠ some project ∧
        (keepSelection file projects (fetched projects project)).1 = (saveProject file project).storage := by
  obtain ⟨hselected, hversion⟩ := fetched_eq projects project
  have hselection : Keeper.selection (fetched projects project) = some (Record.encode project) := by
    rw [Keeper.selection, hselected, Option.map_some]
  have hsame : Keeper.Same (Keeper.selection (fetched projects project)) (Keeper.start projects).last ↔
      projects.listing.selected = some project := by
    rw [Keeper.selection, hselected]
    refine ⟨fun h => (Project.eq_of_same h).symm, fun h => ?_⟩
    rw [Keeper.start, Keeper.selection, h, Keeper.Same]
  have hnew : (Keeper.start projects).seen ≠ (fetched projects project).state.version := by
    rw [hversion]
    exact (Nat.succ_ne_self _).symm
  have hlooks := Keeper.looks (Keeper.start projects) (fetched projects project) Projects.selectionKey file
  unfold keepSelection
  generalize (Keeper.start projects).look (fetched projects project) Projects.selectionKey file = l at hlooks ⊢
  cases hlooks with
  | idle hseen => exact absurd hseen hnew
  | unchanged _ h => exact .inl ⟨hsame.mp h, rfl⟩
  | written _ h _ =>
    refine .inr ⟨mt hsame.mpr h, ?_⟩
    rw [hselection]
    rfl
  | failed _ h _ =>
    refine .inr ⟨mt hsame.mpr h, ?_⟩
    rw [hselection]
    rfl

/-- Whatever selection is brought back from the file, it is this project. -/
def GivesBack (file : StateFile) (project : Project) : Prop :=
  ∀ projects : Cache Project,
    Projects.restore projects file = .ok (projects.dispatch (.select (some project)), some project)

theorem givesBack_of_stored? {file : StateFile} {project : Project}
    (h : Projects.stored? file = .ok (some project)) : GivesBack file project := by
  intro projects
  rw [Projects.restore, h]

theorem project_legible (project : Project) : (Record.encode project).Legible (Json.nestingLimit - 1) :=
  (Project.encode_legible project).mono (by decide)

/-- A project that has been saved is given back. -/
theorem givesBack_saveProject {file : StateFile} {project : Project} (hok : (saveProject file project).outcome = .ok ()) :
    GivesBack (saveProject file project).storage project := by
  have hload : SelectionStorage.load (saveProject file project).storage Projects.selectionKey =
      .ok ((some project).map Record.encode) := StateFile.load_saved (project_legible project) hok
  exact givesBack_of_stored? (Session.stored?_of_load hload)

/-! ## Starts -/

/-- What is fetched is the project that is asked for, and it is kept. -/
theorem fetchProject_eq (reply : Api.Request → Api.Reply) (s : Settings) (file : StateFile) (projects : Cache Project)
    (id : Uuid) :
    (fetchProject s file projects id).sent reply = [projects.endpoint.getRequest id] ∧
      ((fetchProject s file projects id).hold reply).2 =
        match (reply (projects.endpoint.getRequest id)).decode (Record.codec (R := Project)) with
        | .error fault => (file, .error (.noFetch id (.api fault)))
        | .ok project => ((keepSelection file projects (fetched projects project)).1, .ok ⟨s, id, project⟩) := by
  have hask : fetchProject s file projects id = .ask (projects.endpoint.getRequest id) fun r =>
      match r.decode (Record.codec (R := Project)) with
      | .error fault => .answer (file, .error (.noFetch id (.api fault)))
      | .ok project =>
        let kept := keepSelection file projects (fetched projects project)
        logging (.info .program ("Watching project " ++ project.profile.name ++ " (" ++ project.profile.id.text ++ ")") ::
          kept.2) (.answer (kept.1, .ok ⟨s, id, project⟩)) := rfl
  rw [hask, Api.Dialogue.sent, Api.Dialogue.hold]
  cases (reply (projects.endpoint.getRequest id)).decode (Record.codec (R := Project)) with
  | error fault => exact ⟨rfl, rfl⟩
  | ok project =>
    refine ⟨congrArg (_ :: ·) ?_, ?_⟩
    · exact sent_logging _ _ _
    · exact hold_logging _ _ _

/-- A start with settings that serve asks for the project that is known. -/
theorem startWith_eq {env : Environment} {s : Settings} (hs : Serves env s) (file : StateFile)
    (reply : Api.Request → Api.Reply) :
    (∀ id, NamesProject env file id →
      (startWith s file).sent reply = [fetchRequest s id] ∧
        ((startWith s file).hold reply).2 =
          match (reply (fetchRequest s id)).decode (Record.codec (R := Project)) with
          | .error fault => (file, .error (.noFetch id (.api fault)))
          | .ok project =>
            ((keepSelection file (restored s file).1 (fetched (restored s file).1 project)).1, .ok ⟨s, id, project⟩)) ∧
    ((∀ id, ¬NamesProject env file id) →
      (startWith s file).sent reply = [] ∧ ((startWith s file).hold reply).2 = (file, .error .noProject)) := by
  unfold startWith
  simp only [sent_logging, hold_logging]
  refine ⟨fun id hid => ?_, fun hno => ?_⟩
  · rw [← projectToWatch?_eq_some hs] at hid
    simp only [hid]
    have hfetch := fetchProject_eq reply s file (restored s file).1 id
    rw [restored_endpoint] at hfetch
    exact hfetch
  · have hnone : projectToWatch? s (restored s file).1 = none := by
      rw [Option.eq_none_iff_forall_ne_some]
      exact fun id hid => hno id ((projectToWatch?_eq_some hs).mp hid)
    simp only [hnone]
    exact ⟨rfl, rfl⟩

/-- The ways in which a start can go: the requests that are sent, and what comes of it. -/
inductive Course (env : Environment) (disks : Disks) (reply : Api.Request → Api.Reply) :
    List Api.Request → Started → Prop
  /-- No settings serve. -/
  | unserved (hs : ∀ s, ¬Serves env s) (fault : StartFault) : Course env disks reply [] ⟨disks, .error fault⟩
  /-- No project is known. -/
  | unnamed {s : Settings} (hs : Serves env s) (hid : ∀ id, ¬NamesProject env (disks.fileAt s.stateFile) id)
      (fault : StartFault) : Course env disks reply [] ⟨disks, .error fault⟩
  /-- The project cannot be fetched. -/
  | refused {s : Settings} {id : Uuid} (hs : Serves env s) (hid : NamesProject env (disks.fileAt s.stateFile) id)
      {fault : Api.Fault}
      (hreply : (reply (fetchRequest s id)).decode (Record.codec (R := Project)) = .error fault) :
      Course env disks reply [fetchRequest s id] ⟨disks, .error (.noFetch id (.api fault))⟩
  /-- Watching begins with what is on the disk as it was, if it stands for the fetched project. -/
  | known {s : Settings} {id : Uuid} (hs : Serves env s) (hid : NamesProject env (disks.fileAt s.stateFile) id)
      {project : Project}
      (hreply : (reply (fetchRequest s id)).decode (Record.codec (R := Project)) = .ok project)
      (hstored : Projects.stored? (disks.fileAt s.stateFile) = .ok (some project)) :
      Course env disks reply [fetchRequest s id] ⟨disks, .ok ⟨s, id, project⟩⟩
  /-- Watching begins, and the fetched project is saved. -/
  | saved {s : Settings} {id : Uuid} (hs : Serves env s) (hid : NamesProject env (disks.fileAt s.stateFile) id)
      {project : Project}
      (hreply : (reply (fetchRequest s id)).decode (Record.codec (R := Project)) = .ok project)
      (hstored : Projects.stored? (disks.fileAt s.stateFile) ≠ .ok (some project)) :
      Course env disks reply [fetchRequest s id]
        ⟨disks.put (saveProject (disks.fileAt s.stateFile) project).storage, .ok ⟨s, id, project⟩⟩

theorem course (env : Environment) (disks : Disks) (reply : Api.Request → Api.Reply) :
    Course env disks reply ((start env disks).sent reply) ((start env disks).hold reply).2 := by
  unfold start
  rw [sent_logging, hold_logging]
  cases hsettings : startSettings env with
  | error fault =>
    refine .unserved (fun s hs => ?_) fault
    cases hsettings.symm.trans (startSettings_eq_ok.mpr hs)
  | ok s =>
    have hs := startSettings_eq_ok.mp hsettings
    simp only [Api.Dialogue.sent_map, Api.Dialogue.hold_map]
    obtain ⟨hnamed, hunnamed⟩ := startWith_eq hs (disks.fileAt s.stateFile) reply
    by_cases hid : ∃ id, NamesProject env (disks.fileAt s.stateFile) id
    · obtain ⟨id, hid⟩ := hid
      obtain ⟨hsent, hheld⟩ := hnamed id hid
      rw [hsent, hheld]
      cases hreply : (reply (fetchRequest s id)).decode (Record.codec (R := Project)) with
      | error fault =>
        simp only [Disks.put_fileAt]
        exact .refused hs hid hreply
      | ok project =>
        have hselected : (restored s (disks.fileAt s.stateFile)).1.listing.selected = some project ↔
            Projects.stored? (disks.fileAt s.stateFile) = .ok (some project) := by
          rw [restored_selected, storedProject?_eq_some]
        obtain ⟨hknown, hkept⟩ | ⟨hnew, hkept⟩ :=
          keepSelection_cases (disks.fileAt s.stateFile) (restored s (disks.fileAt s.stateFile)).1 project
        · simp only [hkept, Disks.put_fileAt]
          exact .known hs hid hreply (hselected.mp hknown)
        · simp only [hkept]
          exact .saved hs hid hreply (mt hselected.mpr hnew)
    · obtain ⟨hsent, hheld⟩ := hunnamed (not_exists.mp hid)
      rw [hsent, hheld]
      simp only [Disks.put_fileAt]
      exact .unnamed hs (not_exists.mp hid) .noProject

/-! ## What is known of every start -/

theorem Serves.unique {env : Environment} {s s' : Settings} (h : Serves env s) (h' : Serves env s') : s = s' :=
  Except.ok.inj (h.1.symm.trans h'.1)

theorem NamesProject.unique {env : Environment} {s : Settings} (hs : Serves env s) {file : StateFile} {id id' : Uuid}
    (h : NamesProject env file id) (h' : NamesProject env file id') : id = id' := by
  rw [← projectToWatch?_eq_some hs] at h h'
  exact Option.some.inj (h.symm.trans h')

/-- There is only one request that a start can send. -/
theorem fetchRequest_unique {env : Environment} {disks : Disks} {s s' : Settings} {id id' : Uuid} (hs : Serves env s)
    (hid : NamesProject env (disks.fileAt s.stateFile) id) (hs' : Serves env s')
    (hid' : NamesProject env (disks.fileAt s'.stateFile) id') : fetchRequest s id = fetchRequest s' id' := by
  obtain rfl := hs.unique hs'
  rw [hid.unique hs hid']

/-- Whatever text a file holds on a disk that serves, saving a project succeeds. -/
theorem saveProject_of_text {file : StateFile} (hserves : file.disk.Serves) (htext : file.HoldsText)
    (project : Project) : (saveProject file project).outcome = .ok () := by
  obtain ⟨old, givenUp, hstart⟩ := StateFile.starting_of_text hserves htext
  exact (StateFile.save_of_text hserves hstart _ _).1

/-- There is only one way in which watching can begin. -/
theorem begins_iff {env : Environment} {disks : Disks} {reply : Api.Request → Api.Reply} {s : Settings} {id : Uuid}
    {project : Project} (hs : Serves env s) (hid : NamesProject env (disks.fileAt s.stateFile) id)
    (hreply : (reply (fetchRequest s id)).decode (Record.codec (R := Project)) = .ok project) (begun : Begun) :
    (.ok ⟨s, id, project⟩ : Except StartFault Begun) = .ok begun ↔
      Serves env begun.settings ∧ NamesProject env (disks.fileAt begun.settings.stateFile) begun.watched ∧
        (reply (fetchRequest begun.settings begun.watched)).decode (Record.codec (R := Project)) =
          .ok begun.project := by
  constructor
  · rintro ⟨⟩
    exact ⟨hs, hid, hreply⟩
  · obtain ⟨s', id', project'⟩ := begun
    rintro ⟨hs', hid', hreply'⟩
    obtain rfl := hs.unique hs'
    obtain rfl := hid.unique hs hid'
    obtain rfl := Except.ok.inj (hreply.symm.trans hreply')
    rfl

theorem outcome_eq_ok (env : Environment) (disks : Disks) (reply : Api.Request → Api.Reply) (begun : Begun) :
    ((start env disks).hold reply).2.outcome = .ok begun ↔
      Serves env begun.settings ∧ NamesProject env (disks.fileAt begun.settings.stateFile) begun.watched ∧
        (reply (fetchRequest begun.settings begun.watched)).decode (Record.codec (R := Project)) =
          .ok begun.project := by
  have hcourse := course env disks reply
  generalize (start env disks).sent reply = sent, ((start env disks).hold reply).2 = result at hcourse ⊢
  cases hcourse with
  | unserved hs fault => exact iff_of_false nofun fun h => hs _ h.1
  | @unnamed s hs hid fault =>
    refine iff_of_false nofun fun h => ?_
    obtain rfl := hs.unique h.1
    exact hid _ h.2.1
  | @refused s id hs hid fault hreply =>
    refine iff_of_false nofun ?_
    rintro ⟨hs', hid', hproject⟩
    rw [← fetchRequest_unique hs hid hs' hid'] at hproject
    cases hreply.symm.trans hproject
  | known hs hid hreply hstored => exact begins_iff hs hid hreply begun
  | saved hs hid hreply hstored => exact begins_iff hs hid hreply begun

/-- Watching begins if and only if the settings serve, a project is known and the platform answers the request for it
with a project; what is watched is the project that was known.  That is the one which the rule for the variable allows,
except that a variable which does not hold text lets the state file decide.  The request for it is the only one, and it
is sent whenever settings and project are there.  If watching does not begin, the disks are as they were.  If it does,
only the state file may be another one, and it gives the fetched project back from then on, unless the keeper had to
save the project and that failed; it does not fail on a disk that lets the file be read and replaced, whatever text the
file held. -/
theorem watching_begins_iff (env : Environment) (disks : Disks) (reply : Api.Request → Api.Reply) :
    let requests := (start env disks).sent reply
    let started := ((start env disks).hold reply).2
    (∀ begun, started.outcome = .ok begun ↔
      Serves env begun.settings ∧ NamesProject env (disks.fileAt begun.settings.stateFile) begun.watched ∧
        (reply (fetchRequest begun.settings begun.watched)).decode (Record.codec (R := Project)) = .ok begun.project) ∧
    (∀ file, (∀ id, NamesProject env file id ↔ Designates env file id) ↔
      ¬(env.isUnreadable Settings.projectVariable = true ∧ ∃ id, Stores file id)) ∧
    (∀ s id, Serves env s → NamesProject env (disks.fileAt s.stateFile) id → requests = [fetchRequest s id]) ∧
    ((∀ s id, Serves env s → ¬NamesProject env (disks.fileAt s.stateFile) id) → requests = []) ∧
    (∀ fault, started.outcome = .error fault → started.disks = disks) ∧
    ∀ begun, started.outcome = .ok begun →
      let old := disks.fileAt begun.settings.stateFile
      let new := started.disks.fileAt begun.settings.stateFile
      begun.watcher.firstPage.parent = some begun.watched ∧
      (∀ path, path ≠ begun.settings.stateFile → started.disks path = disks path) ∧
      (GivesBack new begun.project ∨
        Projects.stored? old ≠ .ok (some begun.project) ∧
          ∃ fault, (saveProject old begun.project).outcome = .error fault) ∧
      (old.disk.Serves → old.HoldsText → GivesBack new begun.project) := by
  intro requests started
  refine ⟨outcome_eq_ok env disks reply, designates_iff env, ?_⟩
  have hcourse : Course env disks reply requests started := course env disks reply
  generalize requests = sent, started = result at hcourse ⊢
  clear requests started
  cases hcourse with
  | unserved hs fault => exact ⟨fun s id h => absurd h (hs s), fun _ => rfl, fun _ _ => rfl, fun _ h => nomatch h⟩
  | @unnamed s hs hid fault =>
    refine ⟨fun s' id hs' h => ?_, fun _ => rfl, fun _ _ => rfl, fun _ h => nomatch h⟩
    obtain rfl := hs.unique hs'
    exact absurd h (hid id)
  | @refused s id hs hid fault hreply =>
    exact ⟨fun s' id' hs' hid' => congrArg ([·]) (fetchRequest_unique hs hid hs' hid'),
      fun h => absurd hid (h s id hs), fun _ _ => rfl, fun _ h => nomatch h⟩
  | @known s id hs hid project hreply hstored =>
    refine ⟨fun s' id' hs' hid' => congrArg ([·]) (fetchRequest_unique hs hid hs' hid'),
      fun h => absurd hid (h s id hs), nofun, ?_⟩
    rintro _ ⟨⟩
    have hback := givesBack_of_stored? hstored
    exact ⟨rfl, fun _ _ => rfl, .inl hback, fun _ _ => hback⟩
  | @saved s id hs hid project hreply hstored =>
    refine ⟨fun s' id' hs' hid' => congrArg ([·]) (fetchRequest_unique hs hid hs' hid'),
      fun h => absurd hid (h s id hs), nofun, ?_⟩
    rintro _ ⟨⟩
    have hback (hok : (saveProject (disks.fileAt s.stateFile) project).outcome = .ok ()) :
        GivesBack ((disks.put (saveProject (disks.fileAt s.stateFile) project).storage).fileAt s.stateFile)
          project := by
      have hpath : (saveProject (disks.fileAt s.stateFile) project).storage.path = s.stateFile := rfl
      rw [Disks.fileAt_put hpath]
      exact givesBack_saveProject hok
    refine ⟨rfl, fun path hpath => Disks.put_of_ne hpath, ?_, fun hserves htext => ?_⟩
    · cases houtcome : (saveProject (disks.fileAt s.stateFile) project).outcome with
      | ok u => exact .inl (hback houtcome)
      | error fault => exact .inr ⟨hstored, fault, rfl⟩
    · exact hback (saveProject_of_text hserves htext project)

/-- The environment names one project while the file stands for another: the named one is watched, and is given back
from then on. -/
theorem named_project_replaces_stored_one :
    let id (d : Fin 16) : Uuid := ⟨List.replicate 32 d, rfl⟩
    let text (d : Fin 16) := "\x7b\"id\":\"" ++ (id d).text ++ "\",\"name\":\"p\"\x7d"
    let env : Environment := .ofTexts fun name => if name = "LOOKOUT_PROJECT_ID" then some (id 1).text else none
    let disks : Disks := fun _ =>
      ⟨.present, .file ("\x7b\"selected_project\":" ++ text 2 ++ "\x7d").toUTF8, .absent, []⟩
    let settings := { Settings.standard with project := some (id 1) }
    let project (d : Fin 16) : Project := ⟨⟨id d, "p", none, none, none, true⟩⟩
    let started := ((start env disks).hold fun _ => .response ⟨200, text 1⟩).2
    Projects.stored? (disks.fileAt settings.stateFile) = .ok (some (project 2)) ∧
      started.outcome = .ok ⟨settings, id 1, project 1⟩ ∧
      GivesBack (started.disks.fileAt settings.stateFile) (project 1) := by
  intro id text env disks settings project started
  have hstored : Projects.stored? (disks.fileAt settings.stateFile) = .ok (some (project 2)) := by decide +kernel
  have hserves : Serves env settings := ⟨by decide +kernel, by decide +kernel⟩
  have hnames : NamesProject env (disks.fileAt settings.stateFile) (id 1) := by
    have hset : (env.text? Settings.projectVariable).filter (fun text => !Text.isBlankText text) =
        some (id 1).text := by
      decide +kernel
    have hid : Uuid.ofText? (Text.trim (id 1).text) = some (id 1) := by decide +kernel
    rw [NamesProject, hset]
    exact hid
  have hreply : (Api.Reply.response ⟨200, text 1⟩).decode (Record.codec (R := Project)) = .ok (project 1) := by
    decide +kernel
  have htext : (disks.fileAt settings.stateFile).HoldsText := by
    intro bytes hbytes
    obtain rfl := Except.ok.inj hbytes
    exact String.isValidUTF8 _
  have hdisk : (disks.fileAt settings.stateFile).disk.Serves := .inr ⟨rfl, nofun, nofun⟩
  obtain ⟨hiff, -, -, -, -, hbegun⟩ := watching_begins_iff env disks fun _ => .response ⟨200, text 1⟩
  have houtcome := (hiff ⟨settings, id 1, project 1⟩).mpr ⟨hserves, hnames, hreply⟩
  exact ⟨hstored, houtcome, (hbegun _ houtcome).2.2.2 hdisk htext⟩

/-- The variable holds the identifier of one project and a byte behind it that is no text, while the file stands for
another project: the rule allows none, yet the other one is watched. -/
theorem unreadable_project_passed_over :
    let id (d : Fin 16) : Uuid := ⟨List.replicate 32 d, rfl⟩
    let text (d : Fin 16) := "\x7b\"id\":\"" ++ (id d).text ++ "\",\"name\":\"p\"\x7d"
    let env : Environment := fun name =>
      if name = "LOOKOUT_PROJECT_ID" then some ((id 1).text.toUTF8.push 0xff) else none
    let disks : Disks := fun _ =>
      ⟨.present, .file ("\x7b\"selected_project\":" ++ text 2 ++ "\x7d").toUTF8, .absent, []⟩
    let project (d : Fin 16) : Project := ⟨⟨id d, "p", none, none, none, true⟩⟩
    let started := ((start env disks).hold fun _ => .response ⟨200, text 2⟩).2
    env.isSet Settings.projectVariable = true ∧
      (∀ i, ¬Designates env (disks.fileAt Settings.standardStateFile) i) ∧
      started.outcome = .ok ⟨.standard, id 2, project 2⟩ := by
  intro id text env disks project started
  have hunreadable : String.fromUTF8? ((id 1).text.toUTF8.push 0xff) = none := by decide +kernel
  have hstored : Projects.stored? (disks.fileAt Settings.standardStateFile) = .ok (some (project 2)) := by decide +kernel
  have hserves : Serves env .standard := ⟨by decide +kernel, by decide +kernel⟩
  have hnames : NamesProject env (disks.fileAt Settings.standardStateFile) (id 2) := by
    have hset : (env.text? Settings.projectVariable).filter (fun text => !Text.isBlankText text) = none := by
      decide +kernel
    rw [NamesProject, hset]
    exact ⟨project 2, hstored, rfl⟩
  have hreply : (Api.Reply.response ⟨200, text 2⟩).decode (Record.codec (R := Project)) = .ok (project 2) := by
    decide +kernel
  refine ⟨rfl, ?_, (outcome_eq_ok env disks _ ⟨.standard, id 2, project 2⟩).mpr ⟨hserves, hnames, hreply⟩⟩
  rintro i ⟨other, hother, -⟩
  cases hunreadable.symm.trans hother

end Watch

end RunWatch
