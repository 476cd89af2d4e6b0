import RunWatch.Environment
import RunWatch.Text.Blank
import RunWatch.Text.Numeral

/-!
# Connection settings

Where the platform's interface is, how it is addressed and with which token.  `Settings.root` is the
address that every path is appended to; `Settings.check` tells whether requests can be sent with it.
-/

namespace RunWatch.Api

/-- The settings of a connection.  The timeout is in seconds. -/
structure Settings where
  baseUrl : String
  pathPrefix : String
  version : String
  token : Option String
  timeout : Nat
  deriving DecidableEq

/-- Why settings do not serve. -/
inductive SettingsFault where
  | urlUnset
  | emptyUrl
  | badScheme
  | emptyVersion
  | zeroTimeout
  deriving DecidableEq

/-- A fault of settings in words. -/
def SettingsFault.message : SettingsFault → String
  | urlUnset => "LOOKOUT_API_URL environment variable not set"
  | emptyUrl => "base_url cannot be empty"
  | badScheme => "base_url must start with http:// or https://"
  | emptyVersion => "version cannot be empty"
  | zeroTimeout => "timeout must be greater than 0"

namespace Settings

/-- Whether a character parts the segments of a path. -/
def isSlash (c : Char) : Bool := c = '/'

/-- The timeout of requests unless another is given. -/
def standardTimeout : Nat := 30

/-- The settings for a base address, everything else as usual.  Slashes at the end of the address do not
count. -/
def ofUrl (url : String) : Settings :=
  { baseUrl := String.ofList (Text.dropRightWhile isSlash url.toList)
    pathPrefix := "observability"
    version := "v1"
    token := none
    timeout := standardTimeout }

/-- The settings for a platform on this machine. -/
def standard : Settings :=
  ofUrl "http://localhost:8082"

/-- The variable that holds the base address. -/
def urlVariable : String := "LOOKOUT_API_URL"

/-- The settings that an environment gives.  The base address has to be there and to be text; an empty token
counts as none, and a timeout that is no number as the usual one. -/
def ofEnvironment (env : Environment) : Except SettingsFault Settings :=
  match env.text? urlVariable with
  | none => .error .urlUnset
  | some url =>
    let usual := ofUrl url
    .ok
      { usual with
        pathPrefix := (env.text? "LOOKOUT_API_PREFIX").getD usual.pathPrefix
        version := (env.text? "LOOKOUT_API_VERSION").getD usual.version
        token := (env.text? "LOOKOUT_API_TOKEN").filter fun t => !t.isEmpty
        timeout := ((env.text? "LOOKOUT_API_TIMEOUT").bind (Text.count? UInt64.size)).getD standardTimeout }

/-- The parts of the root address, without slashes at their ends and without empty ones. -/
def rootParts (s : Settings) : List (List Char) :=
  ([s.baseUrl, s.pathPrefix, s.version].map fun part => Text.trimBoth isSlash part.toList).filter
    fun part => !part.isEmpty

/-- The address that every path is appended to. -/
def root (s : Settings) : String :=
  String.ofList (['/'].intercalate s.rootParts)

/-- Whether settings serve, and if not, the first thing that is wrong. -/
def check (s : Settings) : Except SettingsFault Unit :=
  if s.baseUrl.isEmpty then .error .emptyUrl
  else if !("http://".toList.isPrefixOf s.baseUrl.toList) &&
      !("https://".toList.isPrefixOf s.baseUrl.toList) then .error .badScheme
  else if s.version.isEmpty then .error .emptyVersion
  else if s.timeout = 0 then .error .zeroTimeout
  else .ok ()

end Settings

end RunWatch.Api
