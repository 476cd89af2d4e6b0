import RunWatch.Json.Codec
import RunWatch.Text.Numeral

/-!
# Identifiers

The identifiers of everything the platform keeps: thirty-two hexadecimal digits.  They are written in
lower case, in five groups with hyphens between them, and read in four forms: with the hyphens, without
them, and the hyphenated form in braces or behind `urn:uuid:`.
-/

namespace RunWatch

/-- An identifier of thirty-two hexadecimal digits. -/
structure Uuid where
  digits : List (Fin 16)
  length_digits : digits.length = 32
  deriving DecidableEq

namespace Uuid

/-! ## Writing -/

/-- The lower-case character of a hexadecimal digit. -/
def digitChar (d : Fin 16) : Char :=
  if d.val < 10 then Char.ofNat ('0'.toNat + d.val) else Char.ofNat ('a'.toNat + (d.val - 10))

/-- The lengths of the hyphenated groups. -/
def groups : List Nat := [8, 4, 4, 4, 12]

/-- Splits characters into groups with hyphens between them. -/
def hyphenate : List Nat → List Char → List Char
  | [], _ => []
  | [n], cs => cs.take n
  | n :: ns, cs => cs.take n ++ '-' :: hyphenate ns (cs.drop n)

/-- The written form of an identifier. -/
def chars (u : Uuid) : List Char :=
  hyphenate groups (u.digits.map digitChar)

/-- The written form of an identifier. -/
def text (u : Uuid) : String :=
  String.ofList u.chars

/-! ## Reading -/

/-- The digit a character stands for, in either case. -/
def digit? (c : Char) : Option (Fin 16) :=
  (Text.hexDigit? c).bind fun n => if h : n < 16 then some ⟨n, h⟩ else none

/-- The characters of hyphenated groups, when the hyphens stand where they belong. -/
def unhyphenate : List Nat → List Char → Option (List Char)
  | [], _ => some []
  | [n], cs => if cs.length = n then some cs else none
  | n :: ns, cs =>
    match cs.drop n with
    | '-' :: rest => (unhyphenate ns rest).map (cs.take n ++ ·)
    | _ => none

/-- The identifier of thirty-two hexadecimal digits. -/
def ofDigitChars? (cs : List Char) : Option Uuid :=
  (cs.mapM digit?).bind fun ds => if h : ds.length = 32 then some ⟨ds, h⟩ else none

/-- The identifier of a hyphenated form. -/
def ofHyphenated? (cs : List Char) : Option Uuid :=
  (unhyphenate groups cs).bind ofDigitChars?

/-- What stands in front of the hyphenated form in a uniform resource name, where case does not count. -/
def urnMark : List Char := ['u', 'r', 'n', ':', 'u', 'u', 'i', 'd', ':']

/-- The identifier of any of the four forms; their lengths tell them apart. -/
def ofChars? (cs : List Char) : Option Uuid :=
  if cs.length = 32 then ofDigitChars? cs
  else if cs.length = 36 then ofHyphenated? cs
  else if cs.length = 38 then
    if cs.head? = some '{' ∧ cs.getLast? = some '}' then ofHyphenated? (cs.tail.dropLast) else none
  else if cs.length = 45 then
    if (cs.take urnMark.length).map Char.toLower = urnMark then ofHyphenated? (cs.drop urnMark.length)
    else none
  else none

/-- The identifier that a text stands for. -/
def ofText? (s : String) : Option Uuid :=
  ofChars? s.toList

/-- Identifiers stand in JSON as text. -/
def codec : Json.Codec Uuid :=
  Json.Codec.textual text ofText?

end Uuid

end RunWatch
