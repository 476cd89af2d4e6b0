import RunWatch.Json.Tree

/-!
# Reading JSON text

`read?` takes a whole text as a tree: one value with blanks around it and nothing else.  The grammar is
the plain one: no comments, no trailing commas, no leading zeros, no control characters in strings, and
the only blanks are space, tab, line feed and carriage return.

Nesting is limited: the containers past level `nestingLimit` are read to their end and become
`Tree.unreadable`.
-/

namespace RunWatch.Json

/-- The deepest nesting of arrays and objects that has a value. -/
def nestingLimit : Nat := 127

/-- Whether a character may stand between the parts of a text. -/
def isGap (c : Char) : Bool :=
  c = ' ' || c = '\t' || c = '\n' || c = '\r'

/-- The characters behind any blanks. -/
def skipGaps (cs : List Char) : List Char :=
  cs.dropWhile isGap

/-! ## Strings -/

/-- A piece of a string: a character that stands for itself or for an escape, or a code unit given by
its number. -/
inductive Piece where
  | char (c : Char)
  | unit (n : Nat)

/-- The character of an escape that is a single letter. -/
def letterEscape? (c : Char) : Option Char :=
  if c = '"' ∨ c = '\\' ∨ c = '/' then some c
  else if c = 'n' then some '\n'
  else if c = 'r' then some '\r'
  else if c = 't' then some '\t'
  else if c = 'b' then some (Char.ofNat 8)
  else if c = 'f' then some (Char.ofNat 12)
  else none

/-- The number that four hexadecimal digits stand for. -/
def unit? (a b c d : Char) : Option Nat := do
  let a ← Text.hexDigit? a
  let b ← Text.hexDigit? b
  let c ← Text.hexDigit? c
  let d ← Text.hexDigit? d
  some (4096 * a + 256 * b + 16 * c + d)

/-- The pieces of a string up to its closing quote, and what follows it. -/
def readPieces : List Char → Option (List Piece × List Char)
  | [] => none
  | '"' :: rest => some ([], rest)
  | '\\' :: 'u' :: a :: b :: c :: d :: rest => do
    let n ← unit? a b c d
    let (ps, rest) ← readPieces rest
    some (.unit n :: ps, rest)
  | '\\' :: c :: rest => do
    let e ← letterEscape? c
    let (ps, rest) ← readPieces rest
    some (.char e :: ps, rest)
  | c :: rest =>
    if c = '\\' ∨ c.toNat < 32 then none
    else do
      let (ps, rest) ← readPieces rest
      some (.char c :: ps, rest)

/-- The characters that pieces stand for.  Two code units that form a surrogate pair are one character;
a surrogate without its partner is none. -/
def joinPieces : List Piece → Option (List Char)
  | [] => some []
  | .char c :: ps => do
    let cs ← joinPieces ps
    some (c :: cs)
  | .unit high :: .unit low :: ps =>
    if 0xD800 ≤ high ∧ high < 0xDC00 then
      if 0xDC00 ≤ low ∧ low < 0xE000 then do
        let cs ← joinPieces ps
        some (Char.ofNat (0x10000 + (high - 0xD800) * 0x400 + (low - 0xDC00)) :: cs)
      else none
    else if 0xDC00 ≤ high ∧ high < 0xE000 then none
    else do
      let cs ← joinPieces (.unit low :: ps)
      some (Char.ofNat high :: cs)
  | .unit n :: ps =>
    if 0xD800 ≤ n ∧ n < 0xE000 then none
    else do
      let cs ← joinPieces ps
      some (Char.ofNat n :: cs)

/-- A string behind its opening quote: its characters, unless a surrogate stands alone, and what
follows. -/
def readString (cs : List Char) : Option (Option String × List Char) := do
  let (ps, rest) ← readPieces cs
  some ((joinPieces ps).map String.ofList, rest)

/-! ## Numbers -/

/-- The fraction of a numeral, if there is a point, and what follows.  A point needs a digit behind
it. -/
def readFraction : List Char → Option (Option (List Nat) × List Char)
  | '.' :: cs =>
    match Text.spanDigits cs with
    | ([], _) => none
    | (ds, rest) => some (some ds, rest)
  | cs => some (none, cs)

/-- The digits of an exponent, with its sign. -/
def readExponentDigits (negative : Bool) (cs : List Char) :
    Option (Option (Bool × List Nat) × List Char) :=
  match Text.spanDigits cs with
  | ([], _) => none
  | (ds, rest) => some (some (negative, ds), rest)

/-- The exponent of a numeral, if there is one, and what follows. -/
def readExponent : List Char → Option (Option (Bool × List Nat) × List Char)
  | c :: cs =>
    if c = 'e' ∨ c = 'E' then
      match cs with
      | '+' :: cs => readExponentDigits false cs
      | '-' :: cs => readExponentDigits true cs
      | cs => readExponentDigits false cs
    else some (none, c :: cs)
  | [] => some (none, [])

/-- The whole part of a numeral: zero alone, or digits that do not start with it. -/
def readWhole : List Char → Option (List Nat × List Char)
  | '0' :: cs => some ([0], cs)
  | cs =>
    match Text.spanDigits cs with
    | ([], _) => none
    | (ds, rest) => some (ds, rest)

/-- A numeral behind its sign, and what follows. -/
def readNumeral (negative : Bool) (cs : List Char) : Option (Decimal × List Char) := do
  let (whole, rest) ← readWhole cs
  let (fraction, rest) ← readFraction rest
  let (exponent, rest) ← readExponent rest
  some (⟨negative, whole, fraction, exponent⟩, rest)

/-- The tree of a numeral. -/
def numeralTree (d : Decimal) : Tree :=
  match Number.ofDecimal? d with
  | some n => .number n
  | none => .unreadable

/-- A numeral as a tree, and what follows. -/
def readNumber (negative : Bool) (cs : List Char) : Option (Tree × List Char) := do
  let (d, rest) ← readNumeral negative cs
  some (numeralTree d, rest)

/-! ## Values -/

/-- The characters behind a word that has to stand in front. -/
def expect? : List Char → List Char → Option (List Char)
  | [], cs => some cs
  | w :: ws, c :: cs => if c = w then expect? ws cs else none
  | _ :: _, [] => none

/-- A container at a level of nesting: unreadable when there is no level left. -/
def nested (levels : Nat) (t : Tree) : Tree :=
  if levels = 0 then .unreadable else t

mutual

/-- A value behind any blanks, and what follows it.  `fuel` bounds the recursion, `levels` is the
nesting that is still allowed. -/
def readValue (fuel levels : Nat) (cs : List Char) : Option (Tree × List Char) :=
  match fuel with
  | 0 => none
  | fuel + 1 =>
    match skipGaps cs with
    | [] => none
    | '"' :: rest => do
      let (s, rest) ← readString rest
      some (s.elim .unreadable .string, rest)
    | '[' :: rest =>
      match skipGaps rest with
      | ']' :: rest => some (nested levels (.array []), rest)
      | rest => do
        let (items, rest) ← readItems fuel (levels - 1) rest
        some (nested levels (.array items), rest)
    | '{' :: rest =>
      match skipGaps rest with
      | '}' :: rest => some (nested levels (.object []), rest)
      | rest => do
        let (members, rest) ← readMembers fuel (levels - 1) rest
        some (nested levels (members.elim .unreadable .object), rest)
    | '-' :: rest => readNumber true rest
    | 't' :: rest => (expect? ['r', 'u', 'e'] rest).map (Tree.bool true, ·)
    | 'f' :: rest => (expect? ['a', 'l', 's', 'e'] rest).map (Tree.bool false, ·)
    | 'n' :: rest => (expect? ['u', 'l', 'l'] rest).map (Tree.null, ·)
    | rest => readNumber false rest

/-- The items of an array up to its closing bracket; there is at least one. -/
def readItems (fuel levels : Nat) (cs : List Char) : Option (List Tree × List Char) :=
  match fuel with
  | 0 => none
  | fuel + 1 => do
    let (t, rest) ← readValue fuel levels cs
    match skipGaps rest with
    | ',' :: rest => do
      let (ts, rest) ← readItems fuel levels rest
      some (t :: ts, rest)
    | ']' :: rest => some ([t], rest)
    | _ => none

/-- The members of an object up to its closing brace; there is at least one.  An unreadable key makes
the object unreadable. -/
def readMembers (fuel levels : Nat) (cs : List Char) :
    Option (Option (List (String × Tree)) × List Char) :=
  match fuel with
  | 0 => none
  | fuel + 1 =>
    match skipGaps cs with
    | '"' :: rest => do
      let (key, rest) ← readString rest
      match skipGaps rest with
      | ':' :: rest => do
        let (t, rest) ← readValue fuel levels rest
        let first := key.map fun k => (k, t)
        match skipGaps rest with
        | ',' :: rest => do
          let (ms, rest) ← readMembers fuel levels rest
          some (first.bind fun m => ms.map (m :: ·), rest)
        | '}' :: rest => some (first.map ([·]), rest)
        | _ => none
      | _ => none
    | _ => none

end

/-- The tree of a text. -/
def readChars? (cs : List Char) : Option Tree := do
  let (t, rest) ← readValue (2 * cs.length + 2) nestingLimit cs
  if (skipGaps rest).isEmpty then some t else none

/-- The tree of a text. -/
def read? (s : String) : Option Tree :=
  readChars? s.toList

end RunWatch.Json
