/-!
# Log entries

What the program, its caches and the watcher report while they work: where it comes from, how grave it is and
a message.  A message is shown without the controls that could move or color what is on a screen.
-/

namespace RunWatch

/-- How grave a log entry is. -/
inductive LogLevel where
  | info
  | warn
  | error
  deriving DecidableEq

/-- The name of a level. -/
def LogLevel.label : LogLevel → String
  | info => "INFO"
  | warn => "WARN"
  | error => "ERROR"

/-- The part of the program that an entry comes from. -/
inductive LogSource where
  | program
  | settings
  | watcher
  | listing
  | catalog
  | keeper
  | storage
  deriving DecidableEq

/-- The name under which the entries of a part of the program are known to filters. -/
def LogSource.name : LogSource → String
  | program => "lookout_monitor"
  | settings => "lookout_monitor::config"
  | watcher => "lookout_monitor::scheduler::poller"
  | listing => "lookout_store::action"
  | catalog => "lookout_store::component"
  | keeper => "lookout_store::project"
  | storage => "lookout_store::storage"

/-- An entry of the log. -/
structure LogEntry where
  source : LogSource
  level : LogLevel
  message : String
  deriving DecidableEq

namespace LogEntry

def info (source : LogSource) (message : String) : LogEntry := ⟨source, .info, message⟩

def warn (source : LogSource) (message : String) : LogEntry := ⟨source, .warn, message⟩

def error (source : LogSource) (message : String) : LogEntry := ⟨source, .error, message⟩

/-! ## Showing -/

/-- The ASCII controls that are not shown as they are. -/
def hiddenControls : List Char := ['\x07', '\x08', '\x0c', '\x1b', '\x7f']

/-- A character as it is shown: a control that a screen would obey is written as its number. -/
def shownChar (c : Char) : List Char :=
  let digits := Nat.toDigits 16 c.toNat
  if hiddenControls.contains c then '\\' :: 'x' :: List.replicate (2 - digits.length) '0' ++ digits
  else if 0x80 ≤ c.toNat && c.toNat ≤ 0x9F then '\\' :: 'u' :: '\x7b' :: digits ++ ['\x7d']
  else [c]

/-- The message as it is shown. -/
def shown (e : LogEntry) : String :=
  String.ofList (e.message.toList.flatMap shownChar)

/-- The first line of the message as it is shown. -/
def headline (e : LogEntry) : String :=
  let line := e.shown.toList.takeWhile (· ≠ '\n')
  String.ofList (if line.getLast? = some '\r' then line.dropLast else line)

end LogEntry

end RunWatch
