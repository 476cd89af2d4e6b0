import RunWatch.Api.Settings
import RunWatch.Log
import RunWatch.Uuid

/-!
# Settings of the watch

Which platform is watched, which of its projects, how often and how much at a time.  Everything comes from
the environment and has a usual value; only a project that is named but cannot be read is an error.
-/

namespace RunWatch.Watch

/-- The settings of a watch.  The interval is in seconds. -/
structure Settings where
  api : Api.Settings
  project : Option Uuid
  interval : Nat
  pageSize : UInt32
  /-- The path of the state file. -/
  stateFile : String
  deriving DecidableEq

/-- Why settings do not serve. -/
inductive SettingsFault where
  | api (fault : Api.SettingsFault)
  | badProject
  | zeroInterval
  | zeroPageSize
  | emptyStateFile
  deriving DecidableEq

/-- A fault of settings in words. -/
def SettingsFault.message : SettingsFault → String
  | api fault => fault.message
  | badProject => "LOOKOUT_PROJECT_ID is not a valid UUID: it has none of the accepted forms"
  | zeroInterval => "poll_interval must be greater than 0"
  | zeroPageSize => "page_size must be greater than 0"
  | emptyStateFile => "state_file cannot be empty"

namespace Settings

/-- The path of the state file unless another is given. -/
def standardStateFile : String := ".lookout/state.json"

/-- The settings for a platform, everything else as usual. -/
def ofApi (api : Api.Settings) : Settings :=
  { api, project := none, interval := 30, pageSize := 50, stateFile := standardStateFile }

/-- The settings for a platform on this machine. -/
def standard : Settings := ofApi .standard

/-- The project that a text names: none if the text is absent or blank, an error if it names nothing. -/
def readProject (text : Option String) : Except SettingsFault (Option Uuid) :=
  match text.filter fun s => !Text.isBlankText s with
  | none => .ok none
  | some s =>
    match Uuid.ofText? (Text.trim s) with
    | some id => .ok (some id)
    | none => .error .badProject

/-- The variable that names the project to watch. -/
def projectVariable : String := "LOOKOUT_PROJECT_ID"

/-- The platform that an environment names, or else the one on this machine.  A base address that is set but
cannot be read names none. -/
def readApi (env : Environment) : Except SettingsFault Api.Settings :=
  if env.isSet Api.Settings.urlVariable then
    (Api.Settings.ofEnvironment env).mapError .api
  else .ok .standard

/-- What is reported while the environment is read. -/
def environmentReport (env : Environment) : List LogEntry :=
  if env.isSet Api.Settings.urlVariable then []
  else [.info .settings "LOOKOUT_API_URL not set, using default API settings"]

/-- The settings that an environment gives.  Numbers that cannot be read count as the usual ones, and a variable
that does not hold text as one that is not set. -/
def ofEnvironment (env : Environment) : Except SettingsFault Settings := do
  let usual := ofApi (← readApi env)
  let project ← readProject (env.text? projectVariable)
  return {
    usual with
    project
    interval := ((env.text? "POLL_INTERVAL").bind (Text.count? UInt64.size)).getD usual.interval
    pageSize := (((env.text? "PAGE_SIZE").bind (Text.count? UInt32.size)).map UInt32.ofNat).getD usual.pageSize
    stateFile := (env.text? "LOOKOUT_STATE_FILE").getD usual.stateFile }

/-- Whether settings serve, and if not, the first thing that is wrong. -/
def check (s : Settings) : Except SettingsFault Unit :=
  match s.api.check with
  | .error fault => .error (.api fault)
  | .ok () =>
    if s.interval = 0 then .error .zeroInterval
    else if s.pageSize = 0 then .error .zeroPageSize
    else if s.stateFile.isEmpty then .error .emptyStateFile
    else .ok ()

end Settings

end RunWatch.Watch
