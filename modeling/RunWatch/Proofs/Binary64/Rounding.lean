import Mathlib.Algebra.GroupWithZero.Nat
import Mathlib.Tactic.ByContra
import Mathlib.Tactic.Ring
import RunWatch.Binary64.Basic

/-!
# What rounding gives

The magnitude of a number is a natural number of units of `2 ^ -1074` (`Binary64.units`).  A quotient that stays
below the middle between the largest number and the next power of two has a nearest number (`exists_nearest`), so
overflow is the only way for an operation to come to nothing.  How far rounding can take a whole number up is
`units_ofNat?_le`, and it never takes one below its power of two (`le_units_ofNat?`).
-/

namespace RunWatch.Binary64

/-- The magnitude of a number, counted in units of `2 ^ -1074`. -/
def units (x : Binary64) : Nat := x.significand * 2 ^ x.exponent

/-- The binary exponent of one, counted in units. -/
@[irreducible] def oneExponent : Nat := 1074

/-- The largest exponent of a number. -/
@[irreducible] def topExponent : Nat := 2045

/-- The units in one. -/
def unitsInOne : Nat := 2 ^ oneExponent

/-- The unit in the last place of the largest numbers. -/
def topUnit : Nat := 2 ^ topExponent

/-- The largest power of ten that a number is multiplied with or divided by. -/
@[irreducible] def largestPower : Nat := 308

theorem oneExponent_eq : oneExponent = 1074 := by
  rw [oneExponent]

theorem topExponent_eq : topExponent = 2045 := by
  rw [topExponent]

theorem largestPower_eq : largestPower = 308 := by
  rw [largestPower]

theorem unitsInOne_pos : 0 < unitsInOne :=
  Nat.two_pow_pos _

theorem shiftLeft_1074 (n : Nat) : n <<< 1074 = n * unitsInOne := by
  rw [← oneExponent_eq, Nat.shiftLeft_eq, unitsInOne]

theorem significand_lt (x : Binary64) : x.significand < 2 ^ 53 := by
  have hlt := x.canonical.1
  rwa [Nat.shiftLeft_eq, one_mul] at hlt

theorem exponent_le (x : Binary64) : x.exponent ≤ topExponent :=
  topExponent_eq ▸ x.canonical.2.2

/-- The magnitude of the largest number. -/
theorem units_le (x : Binary64) : x.units ≤ (2 ^ 53 - 1) * topUnit :=
  Nat.mul_le_mul (Nat.le_sub_one_of_lt x.significand_lt) (Nat.pow_le_pow_right Nat.two_pos x.exponent_le)

/-! ## Quotients -/

/-- A rounded quotient is one of the two whole numbers around it, the one that is not farther away. -/
theorem roundQuotient_cases (num den : Nat) :
    roundQuotient num den = num / den ∧ 2 * (num % den) ≤ den ∨
      roundQuotient num den = num / den + 1 ∧ den ≤ 2 * (num % den) := by
  unfold roundQuotient
  dsimp only
  split
  · exact .inl ⟨rfl, by omega⟩
  · split
    · exact .inr ⟨rfl, by omega⟩
    · split
      · exact .inl ⟨rfl, by omega⟩
      · exact .inr ⟨rfl, by omega⟩

theorem roundQuotient_le (num den : Nat) : 2 * (den * roundQuotient num den) ≤ 2 * num + den := by
  have hnum := Nat.div_add_mod num den
  obtain ⟨hround, -⟩ | ⟨hround, htwice⟩ := roundQuotient_cases num den
  · rw [hround]
    omega
  · rw [hround, Nat.mul_add, Nat.mul_one]
    omega

theorem lt_two_pow_bitLength (n : Nat) : n < 2 ^ bitLength n := by
  unfold bitLength
  split
  · rename_i h
    rw [h]
    decide
  · exact Nat.lt_log2_self

theorem two_pow_le_of_bitLength {n k : Nat} (h : bitLength n = k + 1) : 2 ^ k ≤ n := by
  unfold bitLength at h
  split at h
  · cases h
  · rename_i hn
    obtain rfl : n.log2 = k := by omega
    exact Nat.log2_self_le hn

/-- The exponent of the number nearest to a quotient of units. -/
def exponentOf (num den : Nat) : Nat := bitLength (num / den) - 53

/-- The significand of the number nearest to a quotient of units. -/
def significandOf (num den : Nat) : Nat := roundQuotient num (den * 2 ^ exponentOf num den)

/-- Rounded to its fifty-three highest digits a quotient may reach the next power of two, but not exceed it. -/
theorem significandOf_le (num den : Nat) : significandOf num den ≤ 2 ^ 53 := by
  have hlt := lt_two_pow_bitLength (num / den)
  have hle : bitLength (num / den) ≤ 53 + exponentOf num den := by
    unfold exponentOf
    omega
  have hfloor : num / (den * 2 ^ exponentOf num den) < 2 ^ 53 := by
    rw [← Nat.div_div_eq_div_mul, Nat.div_lt_iff_lt_mul (Nat.two_pow_pos _), ← pow_add]
    exact hlt.trans_le (Nat.pow_le_pow_right (by decide) hle)
  unfold significandOf
  obtain ⟨h, -⟩ | ⟨h, -⟩ := roundQuotient_cases num (den * 2 ^ exponentOf num den) <;> omega

/-- A quotient of more than fifty-three digits keeps its highest one. -/
theorem le_of_exponentOf_pos {num den : Nat} (h : 0 < exponentOf num den) :
    2 ^ (exponentOf num den + 52) ≤ num / den ∧ 2 ^ 52 ≤ significandOf num den := by
  have hlength : bitLength (num / den) = exponentOf num den + 52 + 1 := by
    unfold exponentOf at h ⊢
    omega
  have hquotient := two_pow_le_of_bitLength hlength
  refine ⟨hquotient, ?_⟩
  have hfloor : 2 ^ 52 ≤ num / (den * 2 ^ exponentOf num den) := by
    rw [← Nat.div_div_eq_div_mul, Nat.le_div_iff_mul_le (Nat.two_pow_pos _), ← pow_add, Nat.add_comm]
    exact hquotient
  unfold significandOf
  obtain ⟨h, -⟩ | ⟨h, -⟩ := roundQuotient_cases num (den * 2 ^ exponentOf num den) <;> omega

/-! ## The nearest number -/

theorem nearest_eq (negative : Bool) (num den : Nat) :
    nearest negative num den =
      if significandOf (num * unitsInOne) den = 2 ^ 53 then
        ofParts? negative (2 ^ 52) (exponentOf (num * unitsInOne) den + 1)
      else ofParts? negative (significandOf (num * unitsInOne) den) (exponentOf (num * unitsInOne) den) := by
  rw [nearest, shiftLeft_1074]
  simp only [Nat.shiftLeft_eq, Nat.one_mul]
  rfl

/-- Both ways to write the number nearest to a quotient come to the same magnitude. -/
theorem units_of_nearest {negative : Bool} {num den : Nat} {x : Binary64} (h : nearest negative num den = some x) :
    x.units = significandOf (num * unitsInOne) den * 2 ^ exponentOf (num * unitsInOne) den := by
  have hparts {significand exponent : Nat} (h : ofParts? negative significand exponent = some x) :
      x.units = significand * 2 ^ exponent := by
    unfold ofParts? at h
    split at h
    · cases h
      rfl
    · cases h
  rw [nearest_eq] at h
  split at h
  · rename_i hcarry
    rw [hparts h, hcarry, ← pow_add, ← pow_add, Nat.add_left_comm, Nat.add_comm]
  · exact hparts h

/-- A quotient below the middle between the largest number and the next power of two has a nearest number. -/
theorem exists_nearest (negative : Bool) {num den : Nat}
    (h : 2 * (num * unitsInOne) < (2 ^ 54 - 1) * (topUnit * den)) : ∃ x, nearest negative num den = some x := by
  have hparts {significand exponent : Nat} (hlt : significand < 2 ^ 53)
      (hfull : exponent = 0 ∨ 2 ^ 52 ≤ significand) (hexponent : exponent ≤ topExponent) :
      ∃ x, ofParts? negative significand exponent = some x := ⟨_, dif_pos ⟨hlt, hfull, topExponent_eq ▸ hexponent⟩⟩
  generalize hscaled : num * unitsInOne = scaled at h
  rw [nearest_eq, hscaled]
  have hle := significandOf_le scaled den
  have hfull : exponentOf scaled den = 0 ∨ 2 ^ 52 ≤ significandOf scaled den :=
    (Nat.eq_zero_or_pos _).imp_right fun hpos => (le_of_exponentOf_pos hpos).2
  by_cases hcarry : significandOf scaled den = 2 ^ 53
  · rw [if_pos hcarry]
    refine hparts (by decide) (.inr (Nat.le_refl _)) ?_
    by_contra hexponent
    have htop : topUnit ≤ 2 ^ exponentOf scaled den := Nat.pow_le_pow_right Nat.two_pos (by omega)
    have hunit : topUnit * den ≤ den * 2 ^ exponentOf scaled den := by
      rw [mul_comm topUnit]
      exact Nat.mul_le_mul_left den htop
    have hround := roundQuotient_le scaled (den * 2 ^ exponentOf scaled den)
    rw [← significandOf, hcarry] at hround
    generalize den * 2 ^ exponentOf scaled den = unit at hunit hround
    omega
  · rw [if_neg hcarry]
    refine hparts (by omega) hfull ?_
    by_contra hexponent
    have hpos : 0 < exponentOf scaled den := by omega
    have htop : topUnit ≤ 2 ^ (exponentOf scaled den - 1) := Nat.pow_le_pow_right Nat.two_pos (by omega)
    have hpow : 2 ^ (exponentOf scaled den - 1) * 2 ^ 53 = 2 ^ (exponentOf scaled den + 52) := by
      rw [← pow_add, show exponentOf scaled den - 1 + 53 = exponentOf scaled den + 52 by omega]
    have hscaled : topUnit * 2 ^ 53 * den ≤ scaled := calc
      topUnit * 2 ^ 53 * den ≤ 2 ^ (exponentOf scaled den - 1) * 2 ^ 53 * den :=
        Nat.mul_le_mul_right den (Nat.mul_le_mul_right (2 ^ 53) htop)
      _ = 2 ^ (exponentOf scaled den + 52) * den := by rw [hpow]
      _ ≤ scaled / den * den := Nat.mul_le_mul_right den (le_of_exponentOf_pos hpos).1
      _ ≤ scaled := Nat.div_mul_le_self scaled den
    rw [Nat.mul_right_comm] at hscaled
    omega

/-! ## Whole numbers -/

theorem units_of_ofNat? {n : Nat} {x : Binary64} (h : ofNat? n = some x) :
    x.units = significandOf (n * unitsInOne) 1 * 2 ^ exponentOf (n * unitsInOne) 1 :=
  units_of_nearest h

/-- Up to fifty-three digits a whole number of units is kept. -/
theorem significandOf_one {scaled : Nat} (h : exponentOf scaled 1 = 0) : significandOf scaled 1 = scaled := by
  unfold significandOf
  rw [h, pow_zero, one_mul]
  obtain ⟨hround, -⟩ | ⟨-, hmod⟩ := roundQuotient_cases scaled 1
  · rw [hround, Nat.div_one]
  · rw [Nat.mod_one] at hmod
    cases hmod

/-- Rounding takes a whole number up by one part in `2 ^ 53` at most. -/
theorem units_ofNat?_le {n : Nat} {x : Binary64} (h : ofNat? n = some x) :
    2 ^ 53 * x.units ≤ (2 ^ 53 + 1) * (n * unitsInOne) := by
  rw [units_of_ofNat? h]
  generalize n * unitsInOne = scaled
  by_cases hexact : exponentOf scaled 1 = 0
  · rw [significandOf_one hexact, hexact, pow_zero, mul_one]
    omega
  · have hquotient := (le_of_exponentOf_pos (Nat.pos_of_ne_zero hexact)).1
    have hround := roundQuotient_le scaled (1 * 2 ^ exponentOf scaled 1)
    rw [← significandOf, one_mul, mul_comm (2 ^ _)] at hround
    rw [Nat.div_one, pow_add] at hquotient
    generalize 2 ^ exponentOf scaled 1 = unit at hquotient hround ⊢
    omega

/-- Rounding takes no whole number but zero below one. -/
theorem le_units_ofNat? {n : Nat} (hn : 0 < n) {x : Binary64} (h : ofNat? n = some x) : unitsInOne ≤ x.units := by
  have hscaled : unitsInOne ≤ n * unitsInOne := Nat.le_mul_of_pos_left _ hn
  rw [units_of_ofNat? h]
  generalize n * unitsInOne = scaled at hscaled
  by_cases hexact : exponentOf scaled 1 = 0
  · rwa [significandOf_one hexact, hexact, pow_zero, mul_one]
  · have hlength : bitLength scaled = 53 + exponentOf scaled 1 := by
      unfold exponentOf at hexact ⊢
      rw [Nat.div_one] at hexact ⊢
      omega
    have hone : oneExponent < bitLength scaled :=
      (Nat.pow_lt_pow_iff_right Nat.one_lt_two).mp (hscaled.trans_lt (lt_two_pow_bitLength scaled))
    calc unitsInOne
      _ ≤ 2 ^ (52 + exponentOf scaled 1) := Nat.pow_le_pow_right Nat.two_pos (by omega)
      _ = 2 ^ 52 * 2 ^ exponentOf scaled 1 := pow_add _ _ _
      _ ≤ significandOf scaled 1 * 2 ^ exponentOf scaled 1 :=
        Nat.mul_le_mul_right _ (le_of_exponentOf_pos (Nat.pos_of_ne_zero hexact)).2

/-- Every whole number up to the largest power of ten that is used has a nearest number. -/
theorem exists_ofNat? {n : Nat} (hn : n ≤ 10 ^ largestPower) : ∃ x, ofNat? n = some x := by
  have hlargest : 2 * (10 ^ largestPower * unitsInOne) < (2 ^ 54 - 1) * topUnit := by decide +kernel
  have hscaled := Nat.mul_le_mul_right unitsInOne hn
  exact exists_nearest false (by omega)

theorem exists_powerOfTen? {n : Nat} (hn : n ≤ largestPower) : ∃ x, powerOfTen? n = some x ∧ unitsInOne ≤ x.units := by
  obtain ⟨x, hx⟩ := exists_ofNat? (Nat.pow_le_pow_right (by decide) hn)
  exact ⟨x, hx, le_units_ofNat? (Nat.pow_pos (by decide)) hx⟩

/-! ## Products and quotients -/

/-- A product whose factors have been rounded overflows only if the exact one comes near to the middle between the
largest number and the next power of two. -/
theorem exists_mul? {m n : Nat} {x y : Binary64} (hx : ofNat? m = some x) (hy : ofNat? n = some y)
    (h : m * n * (4 * unitsInOne) ≤ (2 ^ 55 - 10) * topUnit) : ∃ z, x.mul? y = some z := by
  have hnum : (x.significand * y.significand) <<< (x.exponent + y.exponent) = x.units * y.units := by
    rw [Nat.shiftLeft_eq, pow_add, units, units, Nat.mul_mul_mul_comm]
  have hden : 1 <<< 2148 = unitsInOne * unitsInOne := by
    have hexponent : 2148 = oneExponent + oneExponent := by rw [oneExponent_eq]
    rw [hexponent, Nat.shiftLeft_eq, one_mul, pow_add, unitsInOne]
  unfold mul?
  rw [hnum, hden]
  refine exists_nearest _ ?_
  have hproduct := Nat.mul_le_mul (units_ofNat?_le hx) (units_ofNat?_le hy)
  have hpos : 0 < topUnit * (unitsInOne * unitsInOne) :=
    Nat.mul_pos (Nat.two_pow_pos _) (Nat.mul_pos unitsInOne_pos unitsInOne_pos)
  generalize unitsInOne = one at *
  generalize topUnit = top at *
  refine Nat.lt_of_mul_lt_mul_left (a := 2 ^ 108) ?_
  calc 2 ^ 108 * (2 * (x.units * y.units * one))
    _ = 2 ^ 53 * x.units * (2 ^ 53 * y.units) * (8 * one) := by ring
    _ ≤ (2 ^ 53 + 1) * (m * one) * ((2 ^ 53 + 1) * (n * one)) * (8 * one) := Nat.mul_le_mul_right _ hproduct
    _ = m * n * (4 * one) * (2 * (2 ^ 53 + 1) ^ 2 * (one * one)) := by ring
    _ ≤ (2 ^ 55 - 10) * top * (2 * (2 ^ 53 + 1) ^ 2 * (one * one)) := Nat.mul_le_mul_right _ h
    _ = (2 ^ 55 - 10) * (2 * (2 ^ 53 + 1) ^ 2) * (top * (one * one)) := by ring
    _ < 2 ^ 108 * (2 ^ 54 - 1) * (top * (one * one)) := Nat.mul_lt_mul_of_pos_right (by decide) hpos
    _ = 2 ^ 108 * ((2 ^ 54 - 1) * (top * (one * one))) := mul_assoc _ _ _

/-- A quotient by a number that is not below one does not overflow. -/
theorem exists_div? {x y : Binary64} (hy : unitsInOne ≤ y.units) : ∃ z, x.div? y = some z := by
  have hpos : 0 < y.units := unitsInOne_pos.trans_le hy
  have hne : y.significand ≠ 0 := fun h => by rw [units, h, zero_mul] at hpos; cases hpos
  unfold div?
  rw [if_neg hne, Nat.shiftLeft_eq, Nat.shiftLeft_eq]
  refine exists_nearest _ ?_
  have htop : 0 < topUnit * y.units := Nat.mul_pos (Nat.two_pow_pos _) hpos
  have hle : x.units * unitsInOne ≤ (2 ^ 53 - 1) * (topUnit * y.units) := by
    rw [← mul_assoc]
    exact Nat.mul_le_mul x.units_le hy
  change 2 * (x.units * unitsInOne) < (2 ^ 54 - 1) * (topUnit * y.units)
  omega

end RunWatch.Binary64
