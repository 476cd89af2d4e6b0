import RunWatch.Log
import RunWatch.Text.Alphanumeric
import RunWatch.Text.Blank
import RunWatch.Text.Numeral

/-!
# Which entries are logged

A filter is a list of directives with commas between them: a level such as `warn`, or a level for the sources
whose names begin in some way, such as `lookout_store=warn`.  A directive may also ask for fields or for a
span of work, `name[span]=level` or `name[{field}]=level`.  The most specific directive that is about an
entry decides; entries that no directive is about are not logged.

Nothing in this program happens within a named span, and the only field of an entry is its message.
-/

namespace RunWatch

/-! ## Verbosity -/

/-- How much is logged. -/
inductive Verbosity where
  | off
  | error
  | warn
  | info
  | debug
  | trace
  deriving DecidableEq

namespace Verbosity

/-- The verbosities from the least to the most. -/
def all : List (String × Verbosity) :=
  [("off", off), ("error", error), ("warn", warn), ("info", info), ("debug", debug), ("trace", trace)]

/-- The verbosity that a text names, by its number or its name in any case. -/
def ofText? (s : String) : Option Verbosity :=
  match (Text.count? UInt64.size s).bind fun n => all[n]? with
  | some named => some named.2
  | none =>
    if s.isEmpty then some error
    else (all.find? fun v => v.1.toList = s.toList.map Char.toLower).map Prod.snd

/-- Whether entries of a level are logged. -/
def admits : Verbosity → LogLevel → Bool
  | off, _ => false
  | error, l => l = .error
  | warn, l => l ≠ .info
  | info, _ | debug, _ | trace, _ => true

end Verbosity

/-! ## Directives -/

/-- A field that a directive asks for, and whether it has to have a certain value. -/
structure LogField where
  name : String
  hasValue : Bool
  deriving DecidableEq

/-- One part of a filter.  An empty target is about every source. -/
structure LogDirective where
  target : List Char
  span : Option (List Char)
  fields : List LogField
  verbosity : Verbosity

namespace LogDirective

/-- How far reading a directive has come; the numbers are the places where the current part starts. -/
inductive Place where
  | start
  | word (start : Nat)
  | span (start : Nat)
  | field (start : Nat)
  | fields
  | closed
  | level (start : Nat)

/-- What stands between two places of a text. -/
def between (cs : List Char) (start stop : Nat) : List Char :=
  (cs.take stop).drop start

/-- Whether a directive can begin with a character. -/
def canBegin (c : Char) : Bool :=
  ['-', ':', '_'].contains c || Text.isAlphanumeric c

/-- The field that a text names, if it is not empty. -/
def readField (cs : List Char) : Option LogField :=
  if cs.isEmpty then none
  else some ⟨String.ofList (cs.takeWhile (· ≠ '=')), cs.contains '='⟩

/-- Reads the character at a place; `cs` is the text that the parts are cut out of. -/
def next (cs : List Char) : Place × LogDirective → Char × Nat → Option (Place × LogDirective)
  | (.start, d), ('[', i) => some (.span (i + 1), d)
  | (.start, d), (c, i) => if canBegin c then some (.word i, d) else none
  | (.word start, d), ('=', i) => some (.level (i + 1), { d with target := between cs start i })
  | (.word start, d), ('[', i) => some (.span (i + 1), { d with target := between cs start i })
  | (.word start, d), _ => some (.word start, d)
  | (.span start, d), (']', i) => some (.closed, { d with span := some (between cs start i) })
  | (.span start, d), ('\x7b', i) =>
    let name := between cs start i
    some (.field (i + 1), { d with span := if name.isEmpty then none else some name })
  | (.span start, d), _ => some (.span start, d)
  | (.field start, d), ('\x7d', i) =>
    (readField (between cs start i)).map fun f => (.fields, { d with fields := d.fields ++ [f] })
  | (.field start, d), _ => some (.field start, d)
  | (.fields, d), (']', _) => some (.closed, d)
  | (.closed, d), ('=', i) => some (.level (i + 1), d)
  | (.level start, d), _ => some (.level start, d)
  | (.fields, _), _ | (.closed, _), _ => none

/-- Ends a directive where reading has come to.  A word alone is a verbosity or else a target. -/
def finish (cs : List Char) : Place × LogDirective → Option LogDirective
  | (.word start, d) =>
    match Verbosity.ofText? (String.ofList (cs.drop start)) with
    | some verbosity => some { d with verbosity }
    | none => some { d with target := cs.drop start }
  | (.level start, d) =>
    if (cs.drop start).isEmpty then some d
    else
      (Verbosity.ofText? (String.ofList (cs.drop start))).map fun verbosity => { d with verbosity }
  | (.closed, d) => some d
  | _ => none

/-- The directive that a text stands for.  Places are counted without the blanks in front, while parts are
cut out of the text with them. -/
def ofText? (cs : List Char) : Option LogDirective :=
  ((Text.trimBoth Text.isBlank cs).zipIdx.foldlM (next cs) (.start, ⟨[], none, [], .trace⟩)).bind
    (finish cs)

/-- Whether a directive is about entries wherever they are reported: one for a span or for a value of a
field is not. -/
def isGeneral (d : LogDirective) : Bool :=
  d.span.isNone && d.fields.all fun f => !f.hasValue

/-- Whether a directive is about an entry. -/
def concerns (d : LogDirective) (e : LogEntry) : Bool :=
  d.isGeneral && d.target.isPrefixOf e.source.name.toList && d.fields.all fun f => f.name = "message"

/-- Whether a directive is at least as specific as another: by its target, then by its fields. -/
def isAsSpecific (a b : LogDirective) : Bool :=
  b.target.length < a.target.length ||
    (b.target.length = a.target.length && b.fields.length ≤ a.fields.length)

end LogDirective

/-! ## Filters -/

/-- The directives of a filter. -/
structure LogFilter where
  directives : List LogDirective

namespace LogFilter

/-- The directive that decides about an entry: the last of the most specific ones. -/
def deciding? (f : LogFilter) (e : LogEntry) : Option LogDirective :=
  (f.directives.filter (·.concerns e)).foldl (fun best d =>
    match best with
    | some b => if d.isAsSpecific b then some d else some b
    | none => some d) none

/-- Whether an entry is logged. -/
def passes (f : LogFilter) (e : LogEntry) : Bool :=
  (f.deciding? e).any fun d => d.verbosity.admits e.level

/-- The filter that logs errors only. -/
def errorsOnly : LogFilter := ⟨[⟨[], none, [], .error⟩]⟩

/-- The filter unless another is given. -/
def standard : LogFilter :=
  ⟨["lookout_monitor", "lookout_store", "lookout_client"].map fun target => ⟨target.toList, none, [], .info⟩⟩

/-- The filter that a text stands for. -/
def ofText? (s : String) : Option LogFilter := do
  let parts := (s.toList.splitOn ',').filter fun part => !part.isEmpty
  let directives ← parts.mapM LogDirective.ofText?
  return if directives.isEmpty then errorsOnly else ⟨directives⟩

/-- The variable that a filter comes from. -/
def variableName : String := "RUST_LOG"

/-- The filter that the environment gives. -/
def ofVariable (value : Option String) : LogFilter :=
  (value.bind ofText?).getD standard

end LogFilter

end RunWatch
