import RunWatch.Calendar.Instant
import RunWatch.Json.Codec
import RunWatch.Text.Blank
import RunWatch.Text.Numeral

/-!
# Time stamps

The text of an instant.  It is written as date, `T`, time and `Z`, with as many groups of three fraction
digits as are needed.  It is read more freely: numbers may have fewer digits than they are written with
and blanks in front of them, the day and the time are parted by `T`, `t` or a blank space, and the offset
from UTC is `Z`, `UTC` or a sign with hours and minutes.

Years past four digits carry a sign, and so do those before the year zero.
-/

namespace RunWatch.Instant

/-! ## Writing -/

/-- The text of a year. -/
def yearText (year : Int) : List Char :=
  if year < 0 then '-' :: Text.padded 4 year.natAbs
  else if 9999 < year then '+' :: Text.padded 4 year.natAbs
  else Text.padded 4 year.natAbs

/-- The fraction of a second: nothing, or three, six or nine digits behind a point. -/
def fractionText (nanosecond : Nat) : List Char :=
  if nanosecond = 0 then []
  else if nanosecond % 1000000 = 0 then '.' :: Text.padded 3 (nanosecond / 1000000)
  else if nanosecond % 1000 = 0 then '.' :: Text.padded 6 (nanosecond / 1000)
  else '.' :: Text.padded 9 nanosecond

/-- The stamp of an instant.  A leap second is written as second sixty. -/
def stampChars (t : Instant) : List Char :=
  let leap := 1000000000 ≤ t.nanosecond
  let seconds := if leap then 60 else t.second % 60
  let fraction := if leap then t.nanosecond - 1000000000 else t.nanosecond
  yearText t.date.year ++ '-' :: Text.padded 2 t.date.month ++ '-' :: Text.padded 2 t.date.day ++
    'T' :: Text.padded 2 (t.second / 3600) ++ ':' :: Text.padded 2 (t.second / 60 % 60) ++
    ':' :: Text.padded 2 seconds ++ fractionText fraction ++ ['Z']

/-- The stamp of an instant. -/
def stamp (t : Instant) : String :=
  String.ofList t.stampChars

/-! ## Reading -/

/-- A number of one to `width` digits, blanks in front of it allowed, and what follows. -/
def readNumber? (width : Nat) (cs : List Char) : Option (Nat × List Char) :=
  let cs := Text.trimLeft cs
  match Text.spanDigits (cs.take width) with
  | ([], _) => none
  | (ds, rest) => some (Text.ofDigits ds, rest ++ cs.drop width)

/-- A year: up to four digits, or any count of digits behind a sign. -/
def readYear? (cs : List Char) : Option (Int × List Char) :=
  let cs := Text.trimLeft cs
  match cs with
  | '-' :: cs =>
    match Text.spanDigits cs with
    | ([], _) => none
    | (ds, rest) => some (-(Text.ofDigits ds : Int), rest)
  | '+' :: cs =>
    match Text.spanDigits cs with
    | ([], _) => none
    | (ds, rest) => some ((Text.ofDigits ds : Int), rest)
  | cs => (readNumber? 4 cs).map fun r => ((r.1 : Int), r.2)

/-- What follows a mark, blanks in front of the mark allowed. -/
def readMark? (mark : Char) (cs : List Char) : Option (List Char) :=
  match Text.trimLeft cs with
  | c :: rest => if c = mark then some rest else none
  | [] => none

/-- The fraction of a second in nanoseconds, if there is one, and what follows.  Digits past the ninth
do not count. -/
def readFraction? : List Char → Option (Nat × List Char)
  | '.' :: cs =>
    match Text.spanDigits cs with
    | ([], _) => none
    | (ds, rest) =>
      let kept := ds.take 9
      some (Text.ofDigits kept * Nat.pow 10 (9 - kept.length), rest)
  | cs => some (0, cs)

/-- Whether a character may part the hours of an offset from its minutes. -/
def partsOffset (c : Char) : Bool :=
  c = ':' || Text.isBlank c

/-- The sign of an offset: plus, hyphen or minus. -/
def readSign? : List Char → Option (Int × List Char)
  | '+' :: cs => some (1, cs)
  | '-' :: cs => some (-1, cs)
  | '−' :: cs => some (-1, cs)
  | _ => none

/-- Two digits, and what follows. -/
def readPair? : List Char → Option (Nat × List Char)
  | a :: b :: rest => do
    let a ← Text.digit? a
    let b ← Text.digit? b
    some (10 * a + b, rest)
  | _ => none

/-- An offset from UTC in seconds, and what follows. -/
def readOffset? (cs : List Char) : Option (Int × List Char) :=
  match cs with
  | 'Z' :: rest | 'z' :: rest => some (0, rest)
  | _ =>
    if (cs.take 3).map Char.toLower = ['u', 't', 'c'] then some (0, cs.drop 3)
    else do
      let (sign, rest) ← readSign? cs
      let (hours, rest) ← readPair? rest
      let (minutes, rest) ← readPair? (rest.dropWhile partsOffset)
      if minutes < 60 ∧ hours < 24 then
        some (sign * ((hours * 3600 + minutes * 60 : Nat) : Int), rest)
      else none

/-- What follows the mark between day and time. -/
def readParting? : List Char → Option (List Char)
  | 'T' :: rest | 't' :: rest | ' ' :: rest => some rest
  | _ => none

/-- The instant of a time of day on a date.  Second sixty is the leap second behind second
fifty-nine. -/
def ofClock? (date : Date) (hour minute second nanosecond : Nat) (offset : Int) : Option Instant :=
  if hour < 24 ∧ minute < 60 ∧ second ≤ 60 then
    if second = 60 then
      ofLocal? date (hour * 3600 + minute * 60 + 59) (nanosecond + 1000000000) offset
    else ofLocal? date (hour * 3600 + minute * 60 + second) nanosecond offset
  else none

/-- The instant of a stamp. -/
def ofStampChars? (cs : List Char) : Option Instant := do
  let (year, rest) ← readYear? cs
  let rest ← readMark? '-' rest
  let (month, rest) ← readNumber? 2 rest
  let rest ← readMark? '-' rest
  let (day, rest) ← readNumber? 2 rest
  let rest ← readParting? rest
  let (hour, rest) ← readNumber? 2 rest
  let rest ← readMark? ':' rest
  let (minute, rest) ← readNumber? 2 rest
  let rest ← readMark? ':' rest
  let (second, rest) ← readNumber? 2 rest
  let (nanosecond, rest) ← readFraction? rest
  let (offset, rest) ← readOffset? (Text.trimLeft rest)
  if rest.all Text.isBlank then
    let date ← Date.of? year month day
    ofClock? date hour minute second nanosecond offset
  else none

/-- The instant of a stamp. -/
def ofStamp? (s : String) : Option Instant :=
  ofStampChars? s.toList

/-- Instants stand in JSON as their stamps. -/
def codec : Json.Codec Instant :=
  Json.Codec.textual stamp ofStamp?

end RunWatch.Instant
