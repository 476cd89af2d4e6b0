import RunWatch.Json.Value

/-!
# JSON trees

What a JSON text says, before it is taken as a value: members stand in the order of the text, a key may
be repeated, and a part that is well formed without having a value is kept as `Tree.unreadable`.  Such
parts are numbers out of range, strings with an unpaired surrogate and nesting past the limit; they do
no harm where the reader passes over them and are refused by whatever reads them.

`Tree.value?` takes a tree as a value and `Value.tree` is the tree of a value.
-/

namespace RunWatch.Json

/-- A JSON text as it stands. -/
inductive Tree where
  | null
  | bool (b : Bool)
  | number (n : Number)
  | string (s : String)
  | array (items : List Tree)
  | object (members : List (String × Tree))
  | unreadable
  deriving Inhabited

namespace Tree

mutual

/-- The value of a tree, unless a part of it is unreadable.  Of members with one key the last counts. -/
def value? : Tree → Option Value
  | .null => some .null
  | .bool b => some (.bool b)
  | .number n => some (.number n)
  | .string s => some (.string s)
  | .array items => (values? items).map .array
  | .object members => (members? members).map .object
  | .unreadable => none

/-- The values of a list of trees. -/
def values? : List Tree → Option (List Value)
  | [] => some []
  | t :: ts => do
    let v ← value? t
    let vs ← values? ts
    some (v :: vs)

/-- The members of an object in order of their keys. -/
def members? : List (String × Tree) → Option Members
  | [] => some []
  | (k, t) :: rest => do
    let v ← value? t
    let ms ← members? rest
    some (if ms.contains k then ms else ms.insert k v)

end

/-- Whether no part of a tree is unreadable. -/
def isReadable (t : Tree) : Bool :=
  t.value?.isSome

end Tree

namespace Value

mutual

/-- The tree of a value. -/
def tree : Value → Tree
  | .null => .null
  | .bool b => .bool b
  | .number n => .number n
  | .string s => .string s
  | .array items => .array (trees items)
  | .object members => .object (memberTrees members)

/-- The trees of a list of values. -/
def trees : List Value → List Tree
  | [] => []
  | v :: vs => tree v :: trees vs

/-- The trees of the members of an object. -/
def memberTrees : List (String × Value) → List (String × Tree)
  | [] => []
  | (k, v) :: rest => (k, tree v) :: memberTrees rest

end

end Value

end RunWatch.Json
