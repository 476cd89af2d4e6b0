import RunWatch.Text.Numeral

/-!
# Percent encoding

How text is written where only some ASCII characters may stand: every byte of the others becomes a percent
sign and two hexadecimal digits.  The places differ in the characters that may stand as they are.  Reading
undoes it, where a percent sign without two digits behind it stands for itself.
-/

namespace RunWatch.Http

/-- A hexadecimal digit in capitals. -/
def hexDigit (n : Nat) : Char :=
  if n < 10 then Char.ofNat (48 + n) else Char.ofNat (55 + n)

/-- A byte as a percent sign and two digits. -/
def percentByte (b : UInt8) : List Char :=
  ['%', hexDigit (b.toNat / 16), hexDigit (b.toNat % 16)]

/-- A character as it is if it may stand, or else byte by byte. -/
def percentChar (mayStand : Char → Bool) (c : Char) : List Char :=
  if mayStand c then [c] else (String.singleton c).toUTF8.toList.flatMap percentByte

/-- A text in which every character that may not stand is encoded. -/
def percentEncode (mayStand : Char → Bool) (cs : List Char) : List Char :=
  cs.flatMap (percentChar mayStand)

/-- The bytes of a text in which bytes are percent encoded. -/
def percentDecode : List Char → List UInt8
  | [] => []
  | '%' :: a :: b :: rest =>
    match Text.hexDigit? a, Text.hexDigit? b with
    | some high, some low => UInt8.ofNat (high * 16 + low) :: percentDecode rest
    | _, _ => '%'.toUInt8 :: percentDecode (a :: b :: rest)
  | c :: rest => (String.singleton c).toUTF8.toList ++ percentDecode rest

/-- The text in which bytes are percent encoded, if the bytes are a text. -/
def percentDecode? (cs : List Char) : Option (List Char) :=
  (String.fromUTF8? ⟨(percentDecode cs).toArray⟩).map String.toList

/-! ## What may stand where -/

/-- Whether a character is printable ASCII. -/
def isPrintable (c : Char) : Bool :=
  '!' ≤ c && c ≤ '~'

/-- What may stand in a path. -/
def standsInPath (c : Char) : Bool :=
  isPrintable c && !(['"', '<', '>', '\x60', '#', '?', '{', '}'].contains c)

/-- What may stand in a user name or a password. -/
def standsInCredentials (c : Char) : Bool :=
  standsInPath c && !(['/', ':', ';', '=', '@', '[', '\\', ']', '^', '|'].contains c)

/-- What may stand in a query. -/
def standsInQuery (c : Char) : Bool :=
  isPrintable c && !(['"', '<', '>', '#', '\''].contains c)

/-- What may stand in a fragment. -/
def standsInFragment (c : Char) : Bool :=
  isPrintable c && !(['"', '<', '>', '\x60'].contains c)

/-- What may stand in a name or value of a form. -/
def standsInForm (c : Char) : Bool :=
  c.isAlphanum || ['*', '-', '.', '_'].contains c

/-! ## Forms -/

/-- A name or value of a form: blanks become plus signs. -/
def formEncode (cs : List Char) : List Char :=
  cs.flatMap fun c => if c = ' ' then ['+'] else percentChar standsInForm c

/-- The pairs of a form in the order given. -/
def formText (pairs : List (String × String)) : List Char :=
  ['&'].intercalate (pairs.map fun p => formEncode p.1.toList ++ '=' :: formEncode p.2.toList)

end RunWatch.Http
