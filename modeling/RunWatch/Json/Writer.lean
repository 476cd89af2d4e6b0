import RunWatch.Binary64.Shortest
import RunWatch.Json.Value

/-!
# Writing JSON

The two written forms of a value: `compact`, without any blank, which request bodies and nested filter
values use, and `pretty`, with one member or item a line and two spaces of indentation for each level,
which the state file uses.  Both escape the quote, the backslash and the control characters only.
-/

namespace RunWatch.Json

/-! ## Scalars -/

/-- The lower-case hexadecimal digit of a number below sixteen. -/
def hexDigit (n : Nat) : Char :=
  if n < 10 then Char.ofNat ('0'.toNat + n) else Char.ofNat ('a'.toNat + (n - 10))

/-- A character as it stands between the quotes of a string. -/
def escape (c : Char) : List Char :=
  if c = '"' then ['\\', '"']
  else if c = '\\' then ['\\', '\\']
  else if c = '\n' then ['\\', 'n']
  else if c = '\r' then ['\\', 'r']
  else if c = '\t' then ['\\', 't']
  else if c.toNat = 8 then ['\\', 'b']
  else if c.toNat = 12 then ['\\', 'f']
  else if c.toNat < 32 then ['\\', 'u', '0', '0', hexDigit (c.toNat / 16), hexDigit (c.toNat % 16)]
  else [c]

/-- A string between quotes. -/
def quoted (s : String) : List Char :=
  '"' :: (s.toList.flatMap escape ++ ['"'])

/-- An integer in decimal. -/
def integerText (i : Int) : List Char :=
  if i < 0 then '-' :: Nat.toDigits 10 i.natAbs else Nat.toDigits 10 i.natAbs

/-- A number in decimal. -/
def Number.text : Number → List Char
  | .integer i => integerText i.val
  | .float x => x.text

/-- A truth value. -/
def boolText (b : Bool) : List Char :=
  if b then ['t', 'r', 'u', 'e'] else ['f', 'a', 'l', 's', 'e']

/-- The null value. -/
def nullText : List Char := ['n', 'u', 'l', 'l']

namespace Value

/-! ## Without blanks -/

mutual

/-- A value without any blank. -/
def compactChars : Value → List Char
  | .null => nullText
  | .bool b => boolText b
  | .number n => n.text
  | .string s => quoted s
  | .array items => '[' :: (compactItems items ++ [']'])
  | .object members => '{' :: (compactMembers members ++ ['}'])

/-- Items with commas between them. -/
def compactItems : List Value → List Char
  | [] => []
  | [v] => compactChars v
  | v :: vs => compactChars v ++ ',' :: compactItems vs

/-- Members with commas between them. -/
def compactMembers : List (String × Value) → List Char
  | [] => []
  | [(k, v)] => quoted k ++ ':' :: compactChars v
  | (k, v) :: ms => quoted k ++ ':' :: (compactChars v ++ ',' :: compactMembers ms)

end

/-- The compact text of a value. -/
def compact (v : Value) : String :=
  String.ofList v.compactChars

/-! ## With indentation -/

/-- A new line at a level of nesting. -/
def newLine (level : Nat) : List Char :=
  '\n' :: List.replicate (2 * level) ' '

mutual

/-- A value at a level of nesting.  Empty arrays and objects take no line of their own. -/
def prettyChars (level : Nat) : Value → List Char
  | .null => nullText
  | .bool b => boolText b
  | .number n => n.text
  | .string s => quoted s
  | .array [] => ['[', ']']
  | .array (v :: vs) => '[' :: (prettyItems (level + 1) (v :: vs) ++ (newLine level ++ [']']))
  | .object [] => ['{', '}']
  | .object (m :: ms) => '{' :: (prettyMembers (level + 1) (m :: ms) ++ (newLine level ++ ['}']))

/-- Items, each on a line of its own. -/
def prettyItems (level : Nat) : List Value → List Char
  | [] => []
  | [v] => newLine level ++ prettyChars level v
  | v :: vs => newLine level ++ (prettyChars level v ++ ',' :: prettyItems level vs)

/-- Members, each on a line of its own. -/
def prettyMembers (level : Nat) : List (String × Value) → List Char
  | [] => []
  | [(k, v)] => newLine level ++ (quoted k ++ ':' :: ' ' :: prettyChars level v)
  | (k, v) :: ms =>
    newLine level ++ (quoted k ++ ':' :: ' ' :: (prettyChars level v ++ ',' :: prettyMembers level ms))

end

/-- The indented text of a value. -/
def pretty (v : Value) : String :=
  String.ofList (v.prettyChars 0)

end Value

end RunWatch.Json
