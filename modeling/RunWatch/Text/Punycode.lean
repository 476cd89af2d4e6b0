/-!
# Punycode

Text with any characters written with letters, digits and hyphens.  The ASCII characters come first as they
are; the others follow in the order of their code points, each as a number that tells how far it is from the
one before, counted over code points and over the places where a character can stand.
-/

namespace RunWatch.Text.Punycode

/-! ## Numbers -/

/-- The base of the digits. -/
def base : Nat := 36

/-- A digit: the letters stand for 0 to 25, the ASCII digits for 26 to 35. -/
def digit (n : Nat) : Char :=
  if n < 26 then Char.ofNat ('a'.toNat + n) else Char.ofNat ('0'.toNat + (n - 26))

/-- The value of a digit, of either case. -/
def digitValue? (c : Char) : Option Nat :=
  if 'a' ≤ c ∧ c ≤ 'z' then some (c.toNat - 'a'.toNat)
  else if 'A' ≤ c ∧ c ≤ 'Z' then some (c.toNat - 'A'.toNat)
  else if '0' ≤ c ∧ c ≤ '9' then some (c.toNat - '0'.toNat + 26)
  else none

/-- The threshold at a place of a number: a digit below it is the last one. -/
def threshold (bias place : Nat) : Nat :=
  max 1 (min 26 (place - bias))

theorem one_le_threshold (bias place : Nat) : 1 ≤ threshold bias place :=
  Nat.le_max_left ..

/-- The bias that a distance leads to, given how often it goes into the base. -/
def biasOf (distance place : Nat) : Nat :=
  if 455 < distance then biasOf (distance / 35) (place + base)
  else place + base * distance / (distance + 38)
termination_by distance
decreasing_by omega

/-- The bias after a distance, when there are `count` characters; the first distance counts less. -/
def adapt (distance count : Nat) (isFirst : Bool) : Nat :=
  let distance := if isFirst then distance / 700 else distance / 2
  biasOf (distance + distance / count) 0

/-- The bias to begin with. -/
def firstBias : Nat := 72

/-- The code point to begin with: the first behind ASCII. -/
def firstPoint : Nat := 0x80

/-! ## Writing -/

/-- A number in digits, the lowest first. -/
def number (bias place n : Nat) : List Char :=
  let t := threshold bias place
  if n < t then [digit n]
  else digit (t + (n - t) % (base - t)) :: number bias (place + base) ((n - t) / (base - t))
termination_by n
decreasing_by
  have low := one_le_threshold bias place
  have := Nat.div_le_self (n - threshold bias place) (base - threshold bias place)
  omega

/-- What has been written so far. -/
structure Writing where
  out : List Char
  distance : Nat
  bias : Nat
  /-- How many characters have been written. -/
  count : Nat

/-- Goes past one character of the text on the way through the places of a code point. -/
def Writing.pass (basic point : Nat) (w : Writing) (c : Char) : Writing :=
  if c.toNat < point then { w with distance := w.distance + 1 }
  else if c.toNat = point then
    { out := w.out ++ number w.bias base w.distance
      distance := 0
      bias := adapt w.distance (w.count + 1) (w.count = basic)
      count := w.count + 1 }
  else w

/-- Writes the characters at some code points, which ascend; `least` is the first that may come. -/
def writePoints (cs : List Char) (basic : Nat) (least : Nat) : List Nat → Writing → Writing
  | [], w => w
  | point :: points, w =>
    let reached := { w with distance := w.distance + (point - least) * (w.count + 1) }
    let past := cs.foldl (Writing.pass basic point) reached
    writePoints cs basic (point + 1) points { past with distance := past.distance + 1 }

/-- Whether a character is ASCII. -/
def isBasic (c : Char) : Bool :=
  c.toNat < firstPoint

/-- A text in letters, digits and hyphens, if it has no other ASCII characters. -/
def encode (cs : List Char) : List Char :=
  let basic := cs.filter isBasic
  let points := ((cs.filter fun c => !isBasic c).map Char.toNat).mergeSort.eraseDups
  basic ++ (if basic.isEmpty then [] else ['-']) ++
    (writePoints cs basic.length firstPoint points ⟨[], 0, firstBias, basic.length⟩).out

/-! ## Reading -/

/-- What has been read so far, and the number that is being read. -/
structure Reading where
  out : List Char
  point : Nat
  bias : Nat
  /-- The place from which the number being read counts. -/
  start : Nat
  sum : Nat
  weight : Nat
  place : Nat

/-- Takes in a character at the end of a number. -/
def Reading.finish (r : Reading) (sum : Nat) : Option Reading :=
  let places := r.out.length + 1
  let point := r.point + sum / places
  if h : point.isValidChar then
    some {
      out := r.out.insertIdx (sum % places) (Char.ofNatAux point h)
      point
      bias := adapt (sum - r.start) places (r.start = 0)
      start := sum % places + 1
      sum := sum % places + 1
      weight := 1
      place := base }
  else none

/-- Takes in a digit.  Numbers are below 2 to the 32nd. -/
def Reading.next (r : Reading) (c : Char) : Option Reading := do
  let d ← digitValue? c
  let sum := r.sum + d * r.weight
  if UInt32.size ≤ sum then none
  let t := threshold r.bias r.place
  if d < t then r.finish sum
  else if UInt32.size ≤ r.weight * (base - t) then none
  else some { r with sum, weight := r.weight * (base - t), place := r.place + base }

/-- Splits at the last hyphen, which goes away; one in front of everything stays. -/
def splitBasic (cs : List Char) : List Char × List Char :=
  let tail := (cs.reverse.takeWhile (· ≠ '-')).reverse
  let front := cs.take (cs.length - tail.length - 1)
  if front.isEmpty then ([], cs) else (front, tail)

/-- The text that was written in letters, digits and hyphens. -/
def decode? (cs : List Char) : Option (List Char) := do
  let (basic, rest) := splitBasic cs
  let r ← rest.foldlM Reading.next ⟨basic, firstPoint, firstBias, 0, 0, 1, base⟩
  if r.place = base then some r.out else none

end RunWatch.Text.Punycode
