import RunWatch.Api.Transmission
import RunWatch.Log.Filter
import RunWatch.Selection.Projects
import RunWatch.Selection.StateFile
import RunWatch.Watch.Cadence
import RunWatch.Watch.Settings
import RunWatch.Watch.Watcher

/-!
# Starting the watch

What happens from the start of the program up to the moment at which watching begins: the settings are read
and checked, the project selected last time is restored from the state file, and the project to watch is
fetched.  From then on the selection is kept in the state file.

Starting is a dialogue with the platform, so it is a matter of the environment, the disks and the replies
alone.  It tells what stands on the disks in the end, whether watching begins or not.
-/

namespace RunWatch.Watch

/-- Why watching does not begin. -/
inductive StartFault where
  /-- The environment gives no settings. -/
  | unreadable (fault : SettingsFault)
  /-- The settings do not serve. -/
  | invalid (fault : SettingsFault)
  /-- Neither the environment nor the state file names a project. -/
  | noProject
  /-- The project could not be fetched. -/
  | noFetch (project : Uuid) (fault : CacheFault)
  deriving DecidableEq

namespace StartFault

/-- A fault in words, followed by its causes. -/
def chain : StartFault → List String
  | unreadable fault => ["Invalid configuration", fault.message]
  | invalid fault => [fault.message]
  | noProject => ["No project to watch: set LOOKOUT_PROJECT_ID"]
  | noFetch project fault => ("Failed to fetch project " ++ project.text) :: fault.chain

/-- A cause behind its number, if there are several; further lines are indented as far. -/
def causeText (number : Option Nat) (cause : String) : String :=
  let lead := match number with
    | some n => String.ofList (List.replicate (5 - (toString n).length) ' ') ++ toString n ++ ": "
    | none => "    "
  let indent := String.ofList (List.replicate lead.length ' ')
  lead ++ ("\n" ++ indent).intercalate (cause.splitOn "\n")

/-- The causes of a fault, numbered if there are several. -/
def causeTexts : List String → List String
  | [cause] => [causeText none cause]
  | causes => (causes.zipIdx).map fun c => causeText (some c.2) c.1

/-- The report of a fault: its message, then its causes line by line. -/
def report (f : StartFault) : String :=
  match f.chain with
  | [] => "Error: "
  | [message] => "Error: " ++ message
  | message :: causes => "\n".intercalate (["Error: " ++ message, "", "Caused by:"] ++ causeTexts causes)

end StartFault

/-! ## Settings -/

/-- The settings to start with. -/
def startSettings (env : Environment) : Except StartFault Settings :=
  match Settings.ofEnvironment env with
  | .error fault => .error (.unreadable fault)
  | .ok settings =>
    match settings.check with
    | .error fault => .error (.invalid fault)
    | .ok () => .ok settings

/-- What goes along with everything that the program does: the token to present to the platform, and which
entries to log. -/
structure Setup where
  token : Option String
  filter : LogFilter

/-- The setup that an environment gives. -/
def Setup.ofEnvironment (env : Environment) : Setup where
  token := match startSettings env with
    | .ok s => s.api.token
    | .error _ => none
  filter := .ofVariable (env.text? LogFilter.variableName)

/-- What is reported up to the moment at which the settings are there. -/
def settingsReport (env : Environment) : List LogEntry :=
  .info .program "Starting Lookout Monitor" :: Settings.environmentReport env

/-! ## The project -/

/-- A watch that begins. -/
structure Begun where
  settings : Settings
  /-- The identifier that the project was asked for by; it is watched by this one. -/
  watched : Uuid
  /-- The project as it was fetched. -/
  project : Project

/-- The watcher that goes to work then. -/
def Begun.watcher (b : Begun) : Watcher :=
  .new (.ofSettings b.settings.api) b.watched b.settings.pageSize

/-- What is reported about settings that serve. -/
def readyReport (s : Settings) : List LogEntry :=
  [.info .program ("Loaded configuration: api=" ++ s.api.root ++ ", state_file=" ++ s.stateFile),
    .info .program "API client initialized"]

/-- The projects with the stored selection brought back, as far as it can be. -/
def restored (s : Settings) (file : StateFile) : Cache Project × List LogEntry :=
  let projects := Cache.new (Api.Client.ofSettings s.api).projects
  match Projects.restore projects file with
  | .ok (projects, _) => (projects, [])
  | .error fault => (projects, [.warn .program ("Failed to restore selected project: " ++ fault.message)])

/-- The project to watch: the one that the settings name, or else the selected one. -/
def projectToWatch? (s : Settings) (projects : Cache Project) : Option Uuid :=
  match s.project with
  | some id => some id
  | none => projects.listing.selected.map Record.id

/-- The state file once the keeper has seen the fetched project, and what is reported. -/
def keepSelection (file : StateFile) (before after : Cache Project) : StateFile × List LogEntry :=
  let (_, file, entries) := (Keeper.start before).look after Projects.selectionKey file
  (file, entries)

/-- Leaves some entries in the log and goes on. -/
def logging (entries : List LogEntry) (next : Api.Dialogue α) : Api.Dialogue α :=
  entries.foldr .note next

/-- Fetches the project to watch, which singles it out, and has the keeper store it. -/
def fetchProject (s : Settings) (file : StateFile) (projects : Cache Project) (id : Uuid) :
    Api.Dialogue (StateFile × Except StartFault Begun) :=
  let (issued, ticket) := projects.takeTicket false
  (issued.endpoint.getOne id).bind fun
    | .error fault => .answer (file, .error (.noFetch id (.api fault)))
    | .ok project =>
      let (kept, entries) := keepSelection file projects (issued.settle ticket (.gotOne project))
      let watching := "Watching project " ++ project.profile.name ++ " (" ++ project.profile.id.text ++ ")"
      logging (.info .program watching :: entries) (.answer (kept, .ok ⟨s, id, project⟩))

/-- Starts a watch with settings that serve. -/
def startWith (s : Settings) (file : StateFile) : Api.Dialogue (StateFile × Except StartFault Begun) :=
  let (projects, entries) := restored s file
  logging (readyReport s ++ entries)
    (match projectToWatch? s projects with
    | none => .answer (file, .error .noProject)
    | some id => fetchProject s file projects id)

/-- The disks around the paths where a state file may be. -/
abbrev Disks := String → Disk

/-- The state file at a path. -/
def Disks.fileAt (disks : Disks) (path : String) : StateFile := ⟨path, disks path⟩

/-- The same disks, with the one around a state file as it is now. -/
def Disks.put (disks : Disks) (file : StateFile) : Disks :=
  fun path => if path = file.path then file.disk else disks path

/-- What comes of a start: the disks then, and the watch that begins or the reason why none does. -/
structure Started where
  disks : Disks
  outcome : Except StartFault Begun

/-- Starts a watch; `disks` tells what stands around a path. -/
def start (env : Environment) (disks : Disks) : Api.Dialogue Started :=
  logging (settingsReport env)
    (match startSettings env with
    | .error fault => .answer ⟨disks, .error fault⟩
    | .ok s => (startWith s (disks.fileAt s.stateFile)).map fun (file, outcome) => ⟨disks.put file, outcome⟩)

/-- What is logged of a start while the network cannot be reached, and what comes of it. -/
def startOffline (env : Environment) (disks : Disks) : List LogEntry × Except StartFault Begun :=
  let setup := Setup.ofEnvironment env
  let (entries, started) := (start env disks).hold (·.offline setup.token)
  (entries.filter setup.filter.passes, started.outcome)

end RunWatch.Watch
