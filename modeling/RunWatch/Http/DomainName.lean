import RunWatch.Http.DomainName.Mapping
import RunWatch.Text.Blank
import RunWatch.Text.Direction
import RunWatch.Text.Joining
import RunWatch.Text.Mark
import RunWatch.Text.Normal
import RunWatch.Text.Punycode

/-!
# Names of hosts

The name of a host in the form in which the name system knows it: ASCII in lower case, with every label that
has other characters written in Punycode.  A name that would not look the way it is meant is refused: one with
characters that may not be used, with a mark in front, with joiners where nothing joins, or with labels that
mix the directions of writing.
-/

namespace RunWatch.Http.DomainName

open Text (Direction)

/-! ## Characters -/

/-- Whether a character is ASCII. -/
def isAscii (c : Char) : Bool :=
  c.toNat < 0x80

/-- The ASCII characters that have a meaning of their own in an address. -/
def denied : List Char :=
  ['%', '#', '/', ':', '<', '>', '?', '@', '[', '\\', ']', '^', '|']

/-- Whether a character may stand in a label. -/
def standsInLabel (c : Char) : Bool :=
  if isAscii c then '!' ≤ c && c ≤ '~' && !denied.contains c && !c.isUpper else standing.has c

/-- A name with every character replaced by what it becomes, in composed normal form. -/
def plain? (cs : List Char) : Option (List Char) :=
  if cs.all isAscii then some (cs.map Char.toLower)
  else
    (cs.mapM fun c => if isAscii c then some [c.toLower] else mapped? c).map fun parts =>
      Text.normal parts.flatten

/-! ## Labels -/

/-- A label of a name: as it is shown, and as it is written in ASCII. -/
structure Label where
  shown : List Char
  ascii : List Char

namespace Label

/-- What stands in front of a label in Punycode. -/
def mark : List Char := "xn--".toList

/-- The longest text that is written in Punycode, and the longest that is read from it. -/
def mostWritten : Nat := 1000

def mostRead : Nat := 2000

/-- The label that is written in Punycode behind its mark. -/
def decode? (code : List Char) : Option Label := do
  if code.isEmpty || code.getLast? = some '-' || mostRead < code.length then none
  let shown ← Text.Punycode.decode? code
  if shown.all standsInLabel && Text.normal shown = shown && !mark.isPrefixOf shown then
    some ⟨shown, mark ++ code⟩
  else none

/-- The label that a part of a name in its plain form stands for. -/
def ofPart? (part : List Char) : Option Label :=
  if part.all isAscii then
    if mark.isPrefixOf part then decode? (part.drop mark.length) else some ⟨part, part⟩
  else if mark.isPrefixOf part || mostWritten < part.length then none
  else some ⟨part, mark ++ Text.Punycode.encode part⟩

end Label

/-! ## Joiners -/

/-- Whether the first letter of some characters, apart from those through which letters join, is in one of
the sets. -/
def meets (joining : List Text.CodeSet) (cs : List Char) : Bool :=
  match cs.dropWhile fun c => !joining.any (·.has c) && Text.joiningThrough.has c with
  | c :: _ => joining.any (·.has c)
  | [] => false

/-- Whether a joiner fits between what stands before it, the last character first, and what stands behind:
after a sign that takes the vowel away, or, if it keeps letters apart, between two that would join. -/
def joinerFits (joiner : Char) (before after : List Char) : Bool :=
  (before.head?.any fun c => Text.combiningClass c = Text.viramaClass) ||
    (joiner = '\u200C' && meets [Text.joiningLeft, Text.joiningBoth] before &&
      meets [Text.joiningRight, Text.joiningBoth] after)

/-- Whether all joiners fit; `before` is what comes before, the last character first. -/
def joinersFit (before : List Char) : List Char → Bool
  | [] => true
  | c :: rest =>
    ((c ≠ '\u200C' && c ≠ '\u200D') || joinerFits c before rest) && joinersFit (c :: before) rest

/-! ## Directions -/

/-- Whether a character makes a name one in which directions matter. -/
def isRightToLeft (c : Char) : Bool :=
  [Direction.rightToLeft, .arabicLetter, .arabicNumber].contains (.ofChar c)

/-- What may stand inside a label of either direction. -/
def goesAlong : List Direction :=
  [.europeanNumber, .europeanSeparator, .europeanTerminator, .commonSeparator, .nonspacingMark,
    .boundaryNeutral, .otherNeutral]

/-- Whether a label is written in one direction; it begins with a letter that tells which. -/
def keepsDirection (label : List Char) : Bool :=
  let directions := label.map Direction.ofChar
  match directions with
  | [] => true
  | first :: rest =>
    let inside := Text.dropRightWhile (· = .nonspacingMark) rest
    let last := inside.getLast?
    if first = .leftToRight then
      inside.all (fun d => d = .leftToRight || goesAlong.contains d) &&
        last.all fun d => d = .leftToRight || d = .europeanNumber
    else if first = .rightToLeft || first = .arabicLetter then
      let letters : List Direction := [.rightToLeft, .arabicLetter, .arabicNumber]
      inside.all (fun d => letters.contains d || goesAlong.contains d) &&
        last.all (fun d => letters.contains d || d = .europeanNumber) &&
        !(inside.contains .europeanNumber && inside.contains .arabicNumber)
    else false

/-! ## Names -/

/-- Whether the labels of a name look the way they are meant. -/
def areClear (labels : List (List Char)) : Bool :=
  labels.all (fun label => !label.head?.any Text.marks.has && joinersFit [] label) &&
    (!labels.any (·.any isRightToLeft) || labels.all keepsDirection)

/-- The form in which the name system knows a name. -/
def toAscii? (cs : List Char) : Option (List Char) := do
  let plain ← plain? cs
  let parts := plain.splitOn '.'
  if !parts.all (·.all fun c => !isAscii c || standsInLabel c) then none
  let labels ← parts.mapM Label.ofPart?
  if areClear (labels.map Label.shown) then some (['.'].intercalate (labels.map Label.ascii)) else none

end RunWatch.Http.DomainName
