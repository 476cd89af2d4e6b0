import RunWatch.Json.Codec
import RunWatch.Json.Reader
import RunWatch.Json.Writer
import RunWatch.Selection.Disk
import RunWatch.Selection.Storage
import RunWatch.Text.Blank

/-!
# The state file

Storage in one file that holds a JSON object.  A file that is missing or blank reads as empty; one that
holds something else is an error when loading, while saving and removing start over from an empty object.
The file is written beside itself first and then renamed, so it never holds a part of an object.
-/

namespace RunWatch

open Json (Value Members)

/-- A state file: where it is, and the disk around it. -/
structure StateFile where
  path : String
  disk : Disk

namespace StateFile

/-! ## Contents -/

/-- The entries that a text stands for, if it is blank or a JSON object. -/
def entriesOfText (text : String) : Except CacheFault Members :=
  if Text.isBlankText text then .ok []
  else
    match (Json.read? text).bind (Json.Codec.members.read .direct) with
    | some ms => .ok ms
    | none => .error (.corrupt "the state file does not hold an object")

/-- The entries that bytes stand for. -/
def entriesOfBytes (bytes : ByteArray) : Except CacheFault Members :=
  match String.fromUTF8? bytes with
  | some text => entriesOfText text
  | none => .error (.storage DiskFault.notText.message)

/-- The bytes that entries are written as. -/
def bytesOfEntries (ms : Members) : ByteArray :=
  (Value.object ms).pretty.toUTF8

/-- The entries of the file, given what reading it found. -/
def entriesOf : Except DiskFault ByteArray → Except CacheFault Members
  | .ok bytes => entriesOfBytes bytes
  | .error .notFound => .ok []
  | .error fault => .error (.storage fault.message)

/-- The entries of the file. -/
def entries (f : StateFile) : Except CacheFault Members :=
  entriesOf f.disk.contents

/-! ## Updates -/

/-- Replaces the file by one with these entries. -/
def write (ms : Mishaps) (entries : Members) : DiskAction Unit := do
  Disk.makeParent ms
  Disk.writeTemp ms (bytesOfEntries entries)
  Disk.rename ms

/-- The entries to start an update from, and whether what the file held was given up. -/
def startingEntries (found : Except DiskFault ByteArray) : Except CacheFault (Members × Bool) :=
  match entriesOf found with
  | .ok ms => .ok (ms, false)
  | .error (.corrupt _) => .ok ([], true)
  | .error fault => .error fault

/-- The outcome of an update as it is seen by the caller, unless the program ended. -/
inductive Outcome where
  | done
  | failed (fault : CacheFault)
  | ended

/-- The disk after writing the entries, and what came of it. -/
def finish (ms : Mishaps) (entries : Members) (d : Disk) : Disk × Outcome :=
  match write ms entries d with
  | (d, .ok ()) => (d, .done)
  | (d, .failed fault) => (d, .failed (.storage fault.message))
  | (d, .ended) => (d, .ended)

/-- Updates the file.  `change` gives the new entries from the old ones and from whether the old content
was given up; without new entries the file is left as it is. -/
def update (ms : Mishaps) (change : Members → Bool → Option Members) (d : Disk) : Disk × Outcome :=
  let proceed (found : Except DiskFault ByteArray) (d : Disk) : Disk × Outcome :=
    match startingEntries found with
    | .error fault => (d, .failed fault)
    | .ok (old, givenUp) =>
      match change old givenUp with
      | some new => finish ms new d
      | none => (d, .done)
  match Disk.read ms d with
  | (d, .ok bytes) => proceed (.ok bytes) d
  | (d, .failed fault) => proceed (.error fault) d
  | (d, .ended) => (d, .ended)

/-- The new entries when a value is saved. -/
def saving (key : String) (value : Value) (old : Members) (_givenUp : Bool) : Option Members :=
  some (old.insert key value)

/-- The new entries when a key is removed; none when nothing changes. -/
def removing (key : String) (old : Members) (givenUp : Bool) : Option Members :=
  if old.contains key || givenUp then some (old.erase key) else none

/-- The warning about content that was given up. -/
def discardNote (f : StateFile) : List LogEntry :=
  match f.entries with
  | .error (.corrupt reason) =>
    [.warn .storage ("Discarding corrupt state file " ++ f.path ++ ": " ++ reason)]
  | _ => []

/-- An update as it is when no mishap happens. -/
def written (f : StateFile) (change : Members → Bool → Option Members) : Written StateFile :=
  let (disk, outcome) := update .none change f.disk
  { storage := { f with disk := disk }
    outcome := match outcome with
      | .failed fault => .error fault
      | .done | .ended => .ok ()
    notes := f.discardNote }

instance : SelectionStorage StateFile where
  load f key := f.entries.map (Members.find? key)
  save f key value := f.written (saving key value)
  remove f key := f.written (removing key)

end StateFile

end RunWatch
