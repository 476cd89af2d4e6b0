/-!
# The disk around the state file

The part of a file system that keeping the state file involves: the directory it is in, the file itself and
the temporary file beside it.  Each step on it can fail by itself, and a `Mishap` can make any step fail or
end the whole program there; a temporary file that was being written may then hold anything.
-/

namespace RunWatch

/-- Why a step on the disk fails. -/
inductive DiskFault where
  | notFound
  | notADirectory
  | isADirectory
  | nameTooLong
  | notText
  | mishap
  deriving DecidableEq

/-- A fault of the disk in words. -/
def DiskFault.message : DiskFault → String
  | notFound => "No such file or directory"
  | notADirectory => "Not a directory"
  | isADirectory => "Is a directory"
  | nameTooLong => "File name too long"
  | notText => "stream did not contain valid UTF-8"
  | mishap => "Input/output error"

/-- What stands at a path. -/
inductive Node where
  | absent
  | file (bytes : ByteArray)
  | directory

/-- The names taken up in a directory: the given one, if something stands there. -/
def Node.names (name : String) : Node → List String
  | absent => []
  | _ => [name]

/-- The bytes of a file. -/
def Node.data? : Node → Option (Array UInt8)
  | file bytes => some bytes.data
  | _ => none

/-- The directory that the state file belongs in. -/
inductive Parent where
  | present
  | missing
  /-- No directory can be there: a file stands in its place, or its name is too long. -/
  | blocked
  deriving DecidableEq

/-- The disk as far as the state file is concerned. -/
structure Disk where
  parent : Parent
  target : Node
  temp : Node
  /-- The names of other things in the same directory. -/
  others : List String

/-- The steps of reading and replacing the state file. -/
inductive DiskStep where
  | read
  | makeParent
  | writeTemp
  | rename
  deriving DecidableEq

/-- Something that goes wrong at a step: the step fails, or the program ends there.  `left` is what the
temporary file holds after writing it has been cut short. -/
structure Mishap where
  ends : Bool
  left : Node

/-- The mishaps that happen, step by step. -/
abbrev Mishaps := DiskStep → Option Mishap

/-- No mishap at any step. -/
def Mishaps.none : Mishaps := fun _ => Option.none

/-- What comes of steps on the disk. -/
inductive DiskResult (α : Type) where
  | ok (a : α)
  | failed (fault : DiskFault)
  /-- The program ended. -/
  | ended

/-- Steps on the disk. -/
def DiskAction (α : Type) : Type := Disk → Disk × DiskResult α

namespace DiskAction

def bind (a : DiskAction α) (f : α → DiskAction β) : DiskAction β := fun d =>
  match a d with
  | (d, .ok x) => f x d
  | (d, .failed fault) => (d, .failed fault)
  | (d, .ended) => (d, .ended)

instance : Monad DiskAction where
  pure x := fun d => (d, .ok x)
  bind := bind

/-- A step, unless a mishap happens to it; `spoil` is what the mishap does to the disk. -/
def step (mishap : Option Mishap) (spoil : Mishap → Disk → Disk)
    (act : Disk → Except DiskFault (Disk × α)) : DiskAction α := fun d =>
  match mishap with
  | some m => (spoil m d, if m.ends then .ended else .failed .mishap)
  | none =>
    match act d with
    | .ok (d, x) => (d, .ok x)
    | .error fault => (d, .failed fault)

end DiskAction

namespace Disk

/-- What reading the state file finds. -/
def contents (d : Disk) : Except DiskFault ByteArray :=
  match d.parent, d.target with
  | .missing, _ => .error .notFound
  | .blocked, _ => .error .notADirectory
  | .present, .absent => .error .notFound
  | .present, .directory => .error .isADirectory
  | .present, .file bytes => .ok bytes

/-- Reads the state file. -/
def read (ms : Mishaps) : DiskAction ByteArray :=
  .step (ms .read) (fun _ d => d) fun d => d.contents.map (d, ·)

/-- Makes the directory that the state file belongs in, if it is not there. -/
def makeParent (ms : Mishaps) : DiskAction Unit :=
  .step (ms .makeParent) (fun _ d => d) fun d =>
    match d.parent with
    | .present => .ok (d, ())
    | .missing => .ok ({ d with parent := .present, target := .absent, temp := .absent }, ())
    | .blocked => .error .notADirectory

/-- Writes the temporary file. -/
def writeTemp (ms : Mishaps) (bytes : ByteArray) : DiskAction Unit :=
  .step (ms .writeTemp) (fun m d => { d with temp := m.left }) fun d =>
    match d.parent, d.temp with
    | .present, .directory => .error .isADirectory
    | .present, _ => .ok ({ d with temp := .file bytes }, ())
    | .missing, _ => .error .notFound
    | .blocked, _ => .error .notADirectory

/-- Puts the temporary file in the place of the state file, in one step. -/
def rename (ms : Mishaps) : DiskAction Unit :=
  .step (ms .rename) (fun _ d => d) fun d =>
    match d.temp, d.target with
    | .absent, _ => .error .notFound
    | _, .directory => .error .isADirectory
    | temp, _ => .ok ({ d with target := temp, temp := .absent }, ())

/-- The names of everything in the directory of the state file. -/
def names (d : Disk) (fileName tempName : String) : List String :=
  match d.parent with
  | .present =>
    let here := d.target.names fileName ++ d.temp.names tempName ++ d.others
    here.mergeSort fun a b => decide (a ≤ b)
  | _ => []

end Disk

end RunWatch
