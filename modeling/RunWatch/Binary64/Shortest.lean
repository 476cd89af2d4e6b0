import RunWatch.Binary64.Basic

/-!
# The shortest decimal of a binary64 number

The digits a number is written with: as few as read back to the same number, and of those the nearest
to it.  `Shortest.digits` finds them by testing, for one digit, two digits and so on, the two decimals
next to the number on the grid of that many digits; `text` lays them out.
-/

namespace RunWatch.Binary64

/-! ## The interval of decimals that read back -/

/-- The magnitude of a number as a quotient, together with the numerators of the ends of the interval
that rounds to it, all over the denominator `2 ^ 1076`. -/
structure Interval where
  low : Nat
  value : Nat
  high : Nat
  /-- Whether the ends themselves round to the number. -/
  closed : Bool

/-- The denominator of an interval. -/
def Interval.denominator : Nat := 1 <<< 1076

/-- The interval that rounds to the magnitude of a number.  Below a power of two the neighbour is only
half as far away, so there the lower end is nearer. -/
def interval (x : Binary64) : Interval :=
  let unit := 1 <<< x.exponent
  let below := if x.significand = 1 <<< 52 ∧ x.exponent ≠ 0 then 1 else 2
  { low := (4 * x.significand - below) * unit
    value := 4 * x.significand * unit
    high := (4 * x.significand + 2) * unit
    closed := x.significand % 2 = 0 }

/-- Whether `num / den` lies in the interval. -/
def Interval.contains (i : Interval) (num den : Nat) : Bool :=
  let here := num * Interval.denominator
  if i.closed then i.low * den ≤ here && here ≤ i.high * den
  else i.low * den < here && here < i.high * den

/-! ## The decimal grid -/

/-- The count of decimal digits of a natural number. -/
def decimalLength (n : Nat) : Nat := (Nat.toDigits 10 n).length

/-- The exponent of the leading decimal digit of the positive quotient `num / den`. -/
def leadingExponent (num den : Nat) : Int :=
  if den ≤ num then (decimalLength (num / den) : Int) - 1
  else
    let length := decimalLength (den / num)
    if den ≤ num * Nat.pow 10 (length - 1) then -((length : Int) - 1) else -(length : Int)

/-- The power of ten `10 ^ e` as a quotient. -/
def tenTo (e : Int) : Nat × Nat :=
  if e < 0 then (1, Nat.pow 10 e.natAbs) else (Nat.pow 10 e.toNat, 1)

/-- The decimal nearest to the number among its two neighbours on the grid of step `10 ^ e` that read
back, if there is one.  Of two equally near neighbours the even one is taken. -/
def Interval.onGrid (i : Interval) (e : Int) : Option Nat :=
  let (stepNum, stepDen) := tenTo e
  let scaled := i.value * stepDen
  let step := stepNum * Interval.denominator
  let floor := scaled / step
  let below := i.contains (floor * stepNum) stepDen
  let above := i.contains ((floor + 1) * stepNum) stepDen
  let nearer := if below && above then roundQuotient scaled step else if below then floor else floor + 1
  if (below || above) && nearer ≠ 0 then some nearer else none

/-- The decimal with the fewest digits, starting the search at `digits` of them, as a whole number and
the power of ten it is counted in. -/
def Interval.search (i : Interval) (leading : Int) : Nat → Nat → Nat × Int
  | 0, digits => ((i.onGrid (leading - digits + 1)).getD 0, leading - digits + 1)
  | more + 1, digits =>
    match i.onGrid (leading - digits + 1) with
    | some n => (n, leading - digits + 1)
    | none => i.search leading more (digits + 1)

/-- The characters without the zeros at their end. -/
def dropTrailingZeros (cs : List Char) : List Char :=
  (cs.reverse.dropWhile (· = '0')).reverse

/-- The digits of the shortest decimal, without zeros at the end, and the decimal exponent of the
first of them.  Zero has the single digit `0`. -/
def shortest (x : Binary64) : List Char × Int :=
  if x.significand = 0 then (['0'], 0)
  else
    let i := x.interval
    let (n, unit) := i.search (leadingExponent i.value Interval.denominator) 16 1
    let written := Nat.toDigits 10 n
    (dropTrailingZeros written, unit + written.length - 1)

/-! ## Layout -/

/-- Which decimal exponents are written without an exponent: those from `least` up to but not including
`bound`. -/
structure Layout where
  least : Int
  bound : Int

/-- A number is written positionally from `0.00001` up to below `10 ^ 16`. -/
def Layout.standard : Layout := ⟨-5, 16⟩

/-- Digits with a decimal point after the first `whole` of them, filled up with zeros on both sides;
a whole number ends in `.0`. -/
def positional (digits : List Char) (leading : Int) : List Char :=
  if leading < 0 then
    ['0', '.'] ++ List.replicate (leading.natAbs - 1) '0' ++ digits
  else
    let whole := leading.toNat + 1
    if digits.length ≤ whole then
      digits ++ List.replicate (whole - digits.length) '0' ++ ['.', '0']
    else digits.take whole ++ ['.'] ++ digits.drop whole

/-- Digits with a decimal exponent, whose sign is always written. -/
def exponential (digits : List Char) (leading : Int) : List Char :=
  let mantissa := match digits with
    | [] => []
    | [d] => [d]
    | d :: ds => d :: '.' :: ds
  mantissa ++ ['e', if leading < 0 then '-' else '+'] ++ Nat.toDigits 10 leading.natAbs

/-- A number in decimal, by the shortest digits that read back to it. -/
def text (x : Binary64) : List Char :=
  let (digits, leading) := x.shortest
  let body :=
    if Layout.standard.least ≤ leading ∧ leading < Layout.standard.bound then positional digits leading
    else exponential digits leading
  if x.negative then '-' :: body else body

end RunWatch.Binary64
