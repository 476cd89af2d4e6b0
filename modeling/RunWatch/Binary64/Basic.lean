/-!
# Finite binary floating-point numbers

The finite numbers of the binary64 format, kept as sign, significand and exponent so that every
operation is exact arithmetic on natural numbers followed by one rounding.  The main definition is
`Binary64.nearest`, the rounding of a quotient of naturals to the nearest representable number with
ties to the even significand; sums of powers, products and quotients are stated through it.

Infinities and NaN have no place here: JSON text cannot carry them, and an operation that would reach
one has no value.
-/

namespace RunWatch

/-- A finite binary64 number, `± significand · 2 ^ (exponent - 1074)`.  The significand has its top bit
set unless the exponent is the smallest one, so each number has one representation, apart from the two
zeros. -/
structure Binary64 where
  negative : Bool
  significand : Nat
  exponent : Nat
  canonical : significand < 1 <<< 53 ∧ (exponent = 0 ∨ 1 <<< 52 ≤ significand) ∧ exponent ≤ 2045
  deriving DecidableEq

namespace Binary64

/-- The number with this sign, significand and exponent, when the triple is canonical. -/
def ofParts? (negative : Bool) (significand exponent : Nat) : Option Binary64 :=
  if h : significand < 1 <<< 53 ∧ (exponent = 0 ∨ 1 <<< 52 ≤ significand) ∧ exponent ≤ 2045 then
    some ⟨negative, significand, exponent, h⟩
  else none

/-- The zero of a sign. -/
def zero (negative : Bool) : Binary64 :=
  ⟨negative, 0, 0, by decide⟩

/-- Whether a number is one of the two zeros. -/
def isZero (x : Binary64) : Bool :=
  x.significand = 0

/-- The same magnitude under a given sign. -/
def withSign (negative : Bool) (x : Binary64) : Binary64 :=
  { x with negative := negative }

/-! ## Rounding -/

/-- A quotient rounded to the nearest natural number, a half to the even neighbour. -/
def roundQuotient (num den : Nat) : Nat :=
  let q := num / den
  let twice := 2 * (num % den)
  if twice < den then q
  else if den < twice then q + 1
  else if q % 2 = 0 then q else q + 1

/-- The count of binary digits of a natural number. -/
def bitLength (n : Nat) : Nat :=
  if n = 0 then 0 else Nat.log2 n + 1

/-- The number nearest to `± num / den`, a tie going to the even significand.  There is none when the
quotient rounds past the largest finite number. -/
def nearest (negative : Bool) (num den : Nat) : Option Binary64 :=
  let scaled := num <<< 1074
  let exponent := bitLength (scaled / den) - 53
  let rounded := roundQuotient scaled (den <<< exponent)
  if rounded = 1 <<< 53 then ofParts? negative (1 <<< 52) (exponent + 1)
  else ofParts? negative rounded exponent

/-- The number nearest to a natural number. -/
def ofNat? (n : Nat) : Option Binary64 :=
  nearest false n 1

/-- The number nearest to an integer. -/
def ofInt? (i : Int) : Option Binary64 :=
  nearest (i < 0) i.natAbs 1

/-! ## Products and quotients -/

/-- The product of two numbers, when it stays finite. -/
def mul? (x y : Binary64) : Option Binary64 :=
  nearest (x.negative != y.negative)
    ((x.significand * y.significand) <<< (x.exponent + y.exponent)) (1 <<< 2148)

/-- The quotient of two numbers, when the divisor is not zero and the result stays finite. -/
def div? (x y : Binary64) : Option Binary64 :=
  if y.significand = 0 then none
  else
    nearest (x.negative != y.negative)
      (x.significand <<< x.exponent) (y.significand <<< y.exponent)

/-- The number nearest to a power of ten. -/
def powerOfTen? (n : Nat) : Option Binary64 :=
  ofNat? (Nat.pow 10 n)

end Binary64

end RunWatch
