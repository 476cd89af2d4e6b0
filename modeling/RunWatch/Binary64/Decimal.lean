import RunWatch.Binary64.Basic
import RunWatch.Text.Numeral

/-!
# Decimal numerals as binary64 numbers

How the digits of a numeral with a fraction or an exponent become a binary64 number.  The digits are
gathered in a significand of sixty-four bits; digits that no longer fit only move the decimal point.
The significand is then rounded once and scaled by one power of ten, which rounds again, so the result
may differ from the nearest number in its last place.  `Decimal.value?` is the whole rule.
-/

namespace RunWatch

/-- The digits of a numeral: the whole part, the fraction if there is a point, and the exponent if
there is one, with its sign. -/
structure Decimal where
  negative : Bool
  whole : List Nat
  fraction : Option (List Nat)
  exponent : Option (Bool × List Nat)
  deriving DecidableEq

namespace Decimal

/-- Takes digits into a significand for as long as it stays below `2 ^ 64`.  The result is the
significand, the count of digits taken and the count of digits left over. -/
def absorb (significand : Nat) : List Nat → Nat × Nat × Nat
  | [] => (significand, 0, 0)
  | d :: ds =>
    if 10 * significand + d < UInt64.size then
      let (s, taken, left) := absorb (10 * significand + d) ds
      (s, taken + 1, left)
    else (significand, 0, (d :: ds).length)

/-- Divides by the largest power of ten that is used until the rest of the exponent is in range.  The
first argument bounds the divisions: three bring every number to zero. -/
def lower : Nat → Binary64 → Nat → Option Binary64
  | 0, x, _ => some (Binary64.zero x.negative)
  | n + 1, x, e =>
    if e ≤ 308 then do x.div? (← Binary64.powerOfTen? e)
    else if x.isZero then some x
    else do lower n (← x.div? (← Binary64.powerOfTen? 308)) (e - 308)

/-- A significand times a power of ten.  There is none past the largest finite number, and a positive
exponent past `308` is refused unless the significand is zero. -/
def scale (negative : Bool) (significand : Nat) (exponent : Int) : Option Binary64 := do
  let x ← Binary64.ofNat? significand
  let y ←
    if exponent < 0 then lower 4 x exponent.natAbs
    else if exponent ≤ 308 then x.mul? (← Binary64.powerOfTen? exponent.toNat)
    else if x.isZero then some x
    else none
  some (y.withSign negative)

/-- The largest exponent that is read digit by digit; past it only the sign of the exponent counts. -/
def exponentLimit : Nat := 1 <<< 31

/-- The number that a numeral with a fraction, an exponent or too many digits stands for. -/
def value? (d : Decimal) : Option Binary64 :=
  let (whole, _, tens) := absorb 0 d.whole
  let (significand, places) :=
    match d.fraction with
    | none => (whole, 0)
    | some ds => ((absorb whole ds).1, (absorb whole ds).2.1)
  let shift : Int := tens - places
  match d.exponent with
  | none => scale d.negative significand shift
  | some (negativeExponent, ds) =>
    let size := Text.ofDigits ds
    if exponentLimit ≤ size then
      if significand ≠ 0 ∧ ¬negativeExponent then none else some (Binary64.zero d.negative)
    else scale d.negative significand (if negativeExponent then shift - size else shift + size)

end Decimal

end RunWatch
