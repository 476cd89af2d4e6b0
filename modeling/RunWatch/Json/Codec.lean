import RunWatch.Json.Tree

/-!
# Codecs

A `Codec` is one description of how a type stands in JSON, used both to write it and to read it.  This
module has the codecs of scalars, options, lists and named constants; those of records are in
`RunWatch.Json.Shape`.

Reading knows two manners.  A record whose members are shared out between several parts holds them back
first and reads them from there; a constant held back may be written in one more way.
-/

namespace RunWatch.Json

/-- The manner in which a tree is read: as it stands in the input, or from members held back. -/
inductive Manner where
  | direct
  | heldBack
  deriving DecidableEq

/-- How a type stands in JSON. -/
structure Codec (α : Type) where
  write : α → Value
  read : Manner → Tree → Option α

namespace Codec

/-- A value as the type it stands for. -/
def ofValue? (c : Codec α) (v : Value) : Option α :=
  c.read .direct v.tree

/-! ## Scalars -/

/-- A truth value. -/
def flag : Codec Bool where
  write := .bool
  read
    | _, .bool b => some b
    | _, _ => none

/-- A text. -/
def text : Codec String where
  write := .string
  read
    | _, .string s => some s
    | _, _ => none

/-- A type that stands in JSON as a text of its own format. -/
def textual (print : α → String) (parse? : String → Option α) : Codec α where
  write a := .string (print a)
  read
    | _, .string s => parse? s
    | _, _ => none

/-- An unsigned word of sixty-four bits. -/
def uint64 : Codec UInt64 where
  write n := .number (Number.ofUInt64 n)
  read
    | _, .number n => n.toUInt64?
    | _, _ => none

/-- An unsigned word of thirty-two bits. -/
def uint32 : Codec UInt32 where
  write n := .number (Number.ofUInt64 n.toUInt64)
  read
    | _, .number n => n.toUInt64?.bind fun w => if w.toNat < UInt32.size then some w.toUInt32 else none
    | _, _ => none

/-- A floating-point number; an integer is read as the nearest one. -/
def binary64 : Codec Binary64 where
  write x := .number (.float x)
  read
    | _, .number n => n.toBinary64?
    | _, _ => none

/-- Any value at all. -/
def value : Codec Value where
  write v := v
  read _ t := t.value?

/-- The members of an object of any shape. -/
def members : Codec Members where
  write ms := .object ms
  read
    | _, .object ms => Tree.members? ms
    | _, _ => none

/-! ## Options and lists -/

/-- A value or null. -/
def optional (c : Codec α) : Codec (Option α) where
  write
    | some a => c.write a
    | none => .null
  read
    | _, .null => some none
    | m, t => (c.read m t).map some

/-- An array of values of one type. -/
def list (c : Codec α) : Codec (List α) where
  write as := .array (as.map c.write)
  read
    | m, .array ts => ts.mapM (c.read m)
    | _, _ => none

/-! ## Named constants -/

/-- The constant of a name in a table. -/
def ofName? (names : List (String × α)) (name : String) : Option α :=
  (names.find? fun n => n.1 = name).map Prod.snd

/-- Whether a tree may stand behind the name of a constant that is written as an object. -/
def isUnit (m : Manner) : Tree → Bool
  | .null => true
  | .object [] => m = .heldBack
  | _ => false

/-- A constant: its name, or an object with the name as its only key and nothing behind it. -/
def constant (names : List (String × α)) (name : α → String) : Codec α where
  write a := .string (name a)
  read
    | _, .string s => ofName? names s
    | m, .object [(key, t)] => if isUnit m t then ofName? names key else none
    | _, _ => none

end Codec

end RunWatch.Json
