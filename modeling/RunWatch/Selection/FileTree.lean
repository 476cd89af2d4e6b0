import RunWatch.Selection.Disk

/-!
# Paths

Where a path leads in a tree of files: every part but the last has to name a directory that is there, also in
front of a step back.  `FileTree.diskAt` is the disk that a state file at a path would have around it.
-/

namespace RunWatch

/-- A tree of files. -/
inductive FileTree where
  | file (bytes : ByteArray)
  | directory (entries : List (String × FileTree))

namespace FileTree

/-- What a directory has under a name. -/
def child? (t : FileTree) (name : String) : Option FileTree :=
  match t with
  | directory entries => (entries.find? fun e => e.1 = name).map Prod.snd
  | file _ => none

/-- What stands at the end of some names. -/
def at? (t : FileTree) (names : List String) : Option FileTree :=
  names.foldlM child? t

/-- What stands in a tree as seen by itself. -/
def node : FileTree → Node
  | file bytes => .file bytes
  | directory _ => .directory

/-- A directory with something put under a name, in the place of what was there. -/
def put (t : FileTree) (name : String) (new : FileTree) : FileTree :=
  match t with
  | directory entries => directory ((name, new) :: entries.filter fun e => e.1 ≠ name)
  | file bytes => file bytes

/-- The tree with something put at the end of some names; directories on the way are made. -/
def putAt (t : FileTree) (names : List String) (new : FileTree) : FileTree :=
  match names with
  | [] => new
  | name :: rest => t.put name (((t.child? name).getD (directory [])).putAt rest new)

/-! ## Following a path -/

/-- The longest name of a file, and the longest path, in bytes. -/
def longestName : Nat := 255

def longestPath : Nat := 4095

/-- The parts of a path; an empty part stands for the directory in which it is. -/
def parts (path : String) : List String :=
  (path.splitOn "/").map fun part => if part.isEmpty then "." else part

/-- Whether a path begins at the root. -/
def isAbsolute (path : String) : Bool :=
  path.toList.head? = some '/'

/-- The tree with something put where some parts lead from a directory; directories on the way are made. -/
def makeFrom (root : FileTree) (here : List String) (new : FileTree) : List String → FileTree
  | [] => root
  | [part] => root.putAt (here ++ [part]) new
  | part :: rest =>
    if part = "." then makeFrom root here new rest
    else if part = ".." then makeFrom root here.dropLast new rest
    else
      let there := here ++ [part]
      makeFrom (if (root.at? there).isSome then root else root.putAt there (directory [])) there new rest

/-- The tree with something put at a path that is taken from a directory. -/
def make (root : FileTree) (work : List String) (path : String) (new : FileTree) : FileTree :=
  root.makeFrom (if isAbsolute path then [] else work) new (parts path)

/-- The names from the root to where some parts lead; `here` are the names so far, the last one first. -/
def follow (root : FileTree) (here : List String) : List String → Except DiskFault (List String)
  | [] => .ok here.reverse
  | part :: rest =>
    match root.at? here.reverse with
    | some (directory entries) =>
      if part = "." then follow root here rest
      else if part = ".." then follow root here.tail rest
      else if longestName < part.utf8ByteSize then .error .nameTooLong
      else if ((directory entries).child? part).isSome then follow root (part :: here) rest
      else .error .notFound
    | _ => .error .notADirectory

/-- The names from the root to where a path leads that is taken from a directory. -/
def namesOf (root : FileTree) (work : List String) (path : String) : Except DiskFault (List String) :=
  if longestPath < path.utf8ByteSize then .error .nameTooLong
  else root.follow (if isAbsolute path then [] else work.reverse) (parts path)

/-- The tree at which a path leads. -/
def lookUp (root : FileTree) (work : List String) (path : String) : Except DiskFault FileTree :=
  match root.namesOf work path with
  | .ok names =>
    match root.at? names with
    | some tree => .ok tree
    | none => .error .notFound
  | .error fault => .error fault

/-- The disk around a state file at a path.  A file that is not there counts as one whose directory still has
to be made. -/
def diskAt (root : FileTree) (work : List String) (path : String) : Disk :=
  match root.lookUp work path with
  | .ok tree => ⟨.present, tree.node, .absent, []⟩
  | .error .notFound => ⟨.missing, .absent, .absent, []⟩
  | .error _ => ⟨.blocked, .absent, .absent, []⟩

end FileTree

end RunWatch
