import RunWatch.Text.Numeral

/-!
# Tables of code points

Properties of characters are kept as lines of words in hexadecimal, so that a large table stays short.  A
set has one word for each of its ranges, `41` or `41-5A`.  A mapping has a word `41:` for the code point at
which a stretch begins and after it one word for each code point of the stretch, `61` or `73+73`, that tells
what it becomes.  A list of shifts has one word for each run of code points that move by one distance:
`41-5A:61`, or `100-12E/2:101` if only every second one moves.
-/

namespace RunWatch.Text

/-- The words of some lines. -/
def tableWords (lines : List String) : List (List Char) :=
  lines.flatMap fun line => line.toList.splitOn ' '

/-- The number that hexadecimal digits stand for. -/
def ofHexDigits (cs : List Char) : Nat :=
  cs.foldl (fun n c => n * 16 + (hexDigit? c).getD 0) 0

/-! ## Sets -/

/-- The code points from one to another, both included. -/
structure CodeRange where
  first : Nat
  last : Nat

/-- The range that a word stands for. -/
def CodeRange.ofWord (word : List Char) : CodeRange :=
  match (word.splitOn '-').map ofHexDigits with
  | [first, last] => ⟨first, last⟩
  | numbers => ⟨numbers.headD 0, numbers.headD 0⟩

/-- Whether a character is in a range. -/
def CodeRange.has (r : CodeRange) (c : Char) : Bool :=
  r.first ≤ c.toNat && c.toNat ≤ r.last

/-- A set of code points. -/
structure CodeSet where
  ranges : List CodeRange

namespace CodeSet

/-- The set that some lines stand for. -/
def ofLines (lines : List String) : CodeSet :=
  ⟨(tableWords lines).map .ofWord⟩

/-- Whether a character is in a set. -/
def has (s : CodeSet) (c : Char) : Bool :=
  s.ranges.any fun r => r.has c

end CodeSet

/-! ## Mappings -/

/-- What some code points become. -/
structure CodeMap where
  entries : List (Nat × List Char)

namespace CodeMap

/-- The entries behind the code point that the next word is about. -/
def readEntries (next : Nat) : List (List Char) → List (Nat × List Char)
  | [] => []
  | word :: words =>
    if word.getLast? = some ':' then readEntries (ofHexDigits word.dropLast) words
    else
      (next, (word.splitOn '+').map fun digits => Char.ofNat (ofHexDigits digits)) ::
        readEntries (next + 1) words

/-- The mapping that some lines stand for. -/
def ofLines (lines : List String) : CodeMap :=
  ⟨readEntries 0 (tableWords lines)⟩

/-- What a character becomes, if the mapping tells. -/
def get? (m : CodeMap) (c : Char) : Option (List Char) :=
  (m.entries.find? fun e => e.1 = c.toNat).map Prod.snd

end CodeMap

/-! ## Shifts -/

/-- A run of code points that move by one distance. -/
structure CodeShift where
  source : CodeRange
  step : Nat
  target : Nat

namespace CodeShift

/-- The shift that a word stands for. -/
def ofWord (word : List Char) : CodeShift :=
  match word.splitOn ':' with
  | run :: target :: _ =>
    match run.splitOn '/' with
    | range :: step :: _ => ⟨.ofWord range, ofHexDigits step, ofHexDigits target⟩
    | _ => ⟨.ofWord run, 1, ofHexDigits target⟩
  | _ => ⟨⟨0, 0⟩, 1, 0⟩

/-- The shifts that some lines stand for. -/
def ofLines (lines : List String) : List CodeShift :=
  (tableWords lines).map ofWord

/-- What a character becomes, if it moves. -/
def get? (s : CodeShift) (c : Char) : Option Char :=
  if s.source.has c && (c.toNat - s.source.first) % s.step = 0 then
    some (Char.ofNat (s.target + (c.toNat - s.source.first)))
  else none

end CodeShift

end RunWatch.Text
