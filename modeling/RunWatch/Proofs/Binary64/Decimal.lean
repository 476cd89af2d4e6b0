import RunWatch.Binary64.Decimal
import RunWatch.Proofs.Binary64.Rounding

/-!
# Which numerals have a number

Overflow is the only way for a numeral to have no number.  So there is one for every numeral that has at most
nineteen digits in front of the point and no positive exponent (`Decimal.exists_value?_of_places`), and for a numeral
with one digit in front of the point if what it stands for stays clear of the middle between the largest number and
the next power of two (`Decimal.exists_value?_of_bounded`).
-/

namespace RunWatch.Decimal

open Binary64 (unitsInOne topUnit largestPower largestPower_eq)

/-! ## Gathering digits -/

/-- The digits of a natural number, behind what has been read of it. -/
def continued (significand : Nat) (ds : List Nat) : Nat := ds.foldl (fun n d => 10 * n + d) significand

theorem continued_cons (significand d : Nat) (ds : List Nat) :
    continued significand (d :: ds) = continued (10 * significand + d) ds := rfl

theorem le_continued (significand : Nat) (ds : List Nat) :
    significand * 10 ^ ds.length ≤ continued significand ds := by
  induction ds generalizing significand with
  | nil => exact Nat.le_of_eq (Nat.mul_one _)
  | cons d ds ih =>
    calc significand * 10 ^ (ds.length + 1)
      _ = 10 * significand * 10 ^ ds.length := by rw [pow_succ, mul_comm 10, mul_assoc, mul_comm 10]
      _ ≤ (10 * significand + d) * 10 ^ ds.length := Nat.mul_le_mul_right _ (Nat.le_add_right _ _)
      _ ≤ continued (10 * significand + d) ds := ih _

theorem continued_lt {ds : List Nat} (hds : ∀ d ∈ ds, d < 10) (significand : Nat) :
    continued significand ds < (significand + 1) * 10 ^ ds.length := by
  induction ds generalizing significand with
  | nil =>
    rw [List.length_nil, pow_zero, mul_one]
    exact Nat.lt_succ_self significand
  | cons d ds ih =>
    have hd := hds d List.mem_cons_self
    calc continued (10 * significand + d) ds
      _ < (10 * significand + d + 1) * 10 ^ ds.length := ih (fun d' hd' => hds d' (List.mem_cons_of_mem d hd')) _
      _ ≤ (significand + 1) * 10 * 10 ^ ds.length := Nat.mul_le_mul_right _ (by omega)
      _ = (significand + 1) * 10 ^ (ds.length + 1) := by rw [pow_succ, mul_comm (10 ^ _), mul_assoc]

/-- Digits are gathered from the highest on: those left over only lower what has been gathered. -/
theorem absorb_le (significand : Nat) (ds : List Nat) :
    (absorb significand ds).1 * 10 ^ (absorb significand ds).2.2 ≤ continued significand ds ∧
      (absorb significand ds).2.1 + (absorb significand ds).2.2 = ds.length := by
  induction ds generalizing significand with
  | nil => exact ⟨Nat.le_of_eq (Nat.mul_one _), rfl⟩
  | cons d ds ih =>
    rw [absorb]
    split
    · obtain ⟨hle, hlength⟩ := ih (10 * significand + d)
      refine ⟨hle, ?_⟩
      rw [List.length_cons, ← hlength]
      exact Nat.add_right_comm _ _ _
    · exact ⟨le_continued significand (d :: ds), Nat.zero_add _⟩

theorem le_absorb (significand : Nat) (ds : List Nat) : significand ≤ (absorb significand ds).1 := by
  induction ds generalizing significand with
  | nil => exact Nat.le_refl _
  | cons d ds ih =>
    rw [absorb]
    split
    · exact Nat.le_trans (by omega) (ih (10 * significand + d))
    · exact Nat.le_refl _

theorem absorb_lt {significand : Nat} (h : significand < UInt64.size) (ds : List Nat) :
    (absorb significand ds).1 < UInt64.size := by
  induction ds generalizing significand with
  | nil => exact h
  | cons d ds ih =>
    rw [absorb]
    split
    · rename_i hlt
      exact ih hlt
    · exact h

/-- A number of at most nineteen digits leaves none over. -/
theorem absorb_whole {ds : List Nat} (hds : ∀ d ∈ ds, d < 10) (hlength : ds.length ≤ 19) :
    (absorb 0 ds).2.2 = 0 := by
  suffices h : ∀ significand, continued significand ds < UInt64.size → (absorb significand ds).2.2 = 0 by
    refine h 0 ((continued_lt hds 0).trans_le ?_)
    calc (0 + 1) * 10 ^ ds.length
      _ = 10 ^ ds.length := Nat.one_mul _
      _ ≤ 10 ^ 19 := Nat.pow_le_pow_right (by decide) hlength
      _ ≤ UInt64.size := by decide
  intro significand h
  induction ds generalizing significand with
  | nil => rfl
  | cons d ds ih =>
    rw [continued_cons] at h
    have hle : 10 * significand + d ≤ continued (10 * significand + d) ds :=
      (Nat.le_mul_of_pos_right _ (Nat.pow_pos (by decide))).trans (le_continued _ ds)
    rw [absorb, if_pos (hle.trans_lt h)]
    exact ih (fun d' hd' => hds d' (List.mem_cons_of_mem d hd')) (by rw [List.length_cons] at hlength; omega) _ h

/-! ## Scaling -/

theorem exists_lower (divisions : Nat) (x : Binary64) (exponent : Nat) : ∃ y, lower divisions x exponent = some y := by
  have hdiv (x : Binary64) {e : Nat} (he : e ≤ largestPower) :
      ∃ p y, Binary64.powerOfTen? e = some p ∧ x.div? p = some y := by
    obtain ⟨p, hp, hone⟩ := Binary64.exists_powerOfTen? he
    obtain ⟨y, hy⟩ := Binary64.exists_div? (x := x) hone
    exact ⟨p, y, hp, hy⟩
  induction divisions generalizing x exponent with
  | zero => exact ⟨_, rfl⟩
  | succ n ih =>
    rw [lower]
    split
    · rename_i hle
      obtain ⟨p, y, hp, hy⟩ := hdiv x (largestPower_eq ▸ hle)
      exact ⟨y, by rw [hp]; exact hy⟩
    · split
      · exact ⟨x, rfl⟩
      · obtain ⟨p, y, hp, hy⟩ := hdiv x (Nat.le_refl largestPower)
        obtain ⟨z, hz⟩ := ih y (exponent - 308)
        rw [largestPower_eq] at hp
        exact ⟨z, by rw [hp, Option.bind_eq_bind, Option.bind_some, hy]; exact hz⟩

/-- A decimal that stays clear of the middle between the largest number and the next power of two by more than its
two roundings can add. -/
def Bounded (significand exponent : Nat) : Prop :=
  significand * 10 ^ exponent * (4 * unitsInOne) ≤ (2 ^ 55 - 10) * topUnit

/-- A positive decimal that is bounded has no larger exponent than is used. -/
theorem Bounded.exponent_le {significand exponent : Nat} (h : Bounded significand exponent) (hpos : 0 < significand) :
    exponent ≤ largestPower := by
  have hlarge : (2 ^ 55 - 10) * topUnit < 10 ^ (largestPower + 1) * (4 * unitsInOne) := by decide +kernel
  by_contra hexponent
  have hpower : 10 ^ (largestPower + 1) ≤ significand * 10 ^ exponent :=
    (Nat.pow_le_pow_right (by decide) (by omega)).trans (Nat.le_mul_of_pos_left _ hpos)
  exact absurd (h.trans_lt hlarge) (Nat.not_lt.mpr (Nat.mul_le_mul_right _ hpower))

theorem bounded_zero {significand : Nat} (h : significand < UInt64.size) : Bounded significand 0 := by
  have hsize : UInt64.size * 10 ^ 0 * (4 * unitsInOne) ≤ (2 ^ 55 - 10) * topUnit := by decide +kernel
  exact (Nat.mul_le_mul_right _ (Nat.mul_le_mul_right _ (Nat.le_of_lt h))).trans hsize

theorem exists_scale (negative : Bool) {significand : Nat} {exponent : Int} (h : significand < UInt64.size)
    (hbounded : 0 < exponent → 0 < significand ∧ Bounded significand exponent.toNat) :
    ∃ x, scale negative significand exponent = some x := by
  have hsize : UInt64.size ≤ 10 ^ largestPower := by decide +kernel
  obtain ⟨x, hx⟩ := Binary64.exists_ofNat? (Nat.le_trans (Nat.le_of_lt h) hsize)
  rw [scale, hx]
  simp only [Option.bind_eq_bind, Option.bind_some]
  split
  · obtain ⟨y, hy⟩ := exists_lower 4 x exponent.natAbs
    exact ⟨_, by rw [hy]; rfl⟩
  · rename_i hnonneg
    have hexponent : Bounded significand exponent.toNat ∧ exponent.toNat ≤ largestPower := by
      by_cases hpos : 0 < exponent
      · obtain ⟨hsignificand, hbounded⟩ := hbounded hpos
        exact ⟨hbounded, hbounded.exponent_le hsignificand⟩
      · obtain rfl : exponent = 0 := by omega
        exact ⟨bounded_zero h, Nat.zero_le _⟩
    obtain ⟨hbounded, hle⟩ := hexponent
    obtain ⟨p, hp, -⟩ := Binary64.exists_powerOfTen? hle
    obtain ⟨y, hy⟩ := Binary64.exists_mul? hx hp hbounded
    rw [if_pos (by rw [largestPower_eq] at hle; omega), hp, Option.bind_some, hy]
    exact ⟨_, rfl⟩

/-! ## Numerals -/

/-- The value of a numeral, with a missing fraction as one without digits. -/
theorem value?_eq (d : Decimal) :
    d.value? =
      (let whole := absorb 0 d.whole
       let digits := absorb whole.1 (d.fraction.getD [])
       let shift : Int := whole.2.2 - digits.2.1
       match d.exponent with
       | none => scale d.negative digits.1 shift
       | some (negativeExponent, ds) =>
         if exponentLimit ≤ Text.ofDigits ds then
           if digits.1 ≠ 0 ∧ ¬negativeExponent then none else some (Binary64.zero d.negative)
         else
           scale d.negative digits.1
             (if negativeExponent then shift - Text.ofDigits ds else shift + Text.ofDigits ds)) := by
  obtain ⟨negative, whole, fraction, exponent⟩ := d
  cases fraction <;> rfl

/-- A numeral whose digits in front of the point all count has a number unless it has a positive exponent. -/
theorem exists_value?_of_places {d : Decimal} (hdigits : ∀ digit ∈ d.whole, digit < 10) (hlength : d.whole.length ≤ 19)
    (hexponent : ∀ e ∈ d.exponent, e.1 = true) : ∃ x, d.value? = some x := by
  have hwhole := absorb_whole hdigits hlength
  have hzero : 0 < UInt64.size := by decide
  have hlt := absorb_lt (absorb_lt hzero d.whole) (d.fraction.getD [])
  rw [value?_eq]
  dsimp only
  rw [hwhole]
  split
  · exact exists_scale _ hlt fun hpos => absurd hpos (by omega)
  · rename_i negativeExponent ds heq
    obtain rfl : negativeExponent = true := hexponent _ heq
    split
    · exact ⟨_, if_neg (by simp)⟩
    · exact exists_scale _ hlt fun hpos => absurd hpos (by rw [if_pos rfl]; omega)

/-- A numeral with one digit in front of the point and a positive exponent has a number if it is bounded. -/
theorem exists_value?_of_bounded (negative : Bool) {digit : Nat} (hdigit : 0 < digit ∧ digit < 10)
    (fraction : Option (List Nat)) (ds : List Nat)
    (h : continued digit (fraction.getD []) * 10 ^ Text.ofDigits ds * (4 * unitsInOne) ≤
      (2 ^ 55 - 10) * topUnit * 10 ^ (fraction.getD []).length) :
    ∃ x, value? ⟨negative, [digit], fraction, some (false, ds)⟩ = some x := by
  have hlt : digit < UInt64.size := hdigit.2.trans_le (by decide)
  have hwhole : absorb 0 [digit] = (digit, 1, 0) := by
    rw [absorb, Nat.mul_zero, Nat.zero_add, if_pos hlt, absorb]
  rw [value?_eq]
  dsimp only
  rw [hwhole]
  dsimp only
  generalize Text.ofDigits ds = size at *
  generalize fraction.getD [] = fs at *
  obtain ⟨hle, hlength⟩ := absorb_le digit fs
  have hpos : 0 < (absorb digit fs).1 := hdigit.1.trans_le (le_absorb digit fs)
  have hscale : 0 < 10 ^ fs.length := Nat.pow_pos (by decide)
  have hsize : size < exponentLimit := by
    have hbounded : Bounded digit size := by
      refine Nat.le_of_mul_le_mul_right (Nat.le_trans ?_ h) hscale
      calc digit * 10 ^ size * (4 * unitsInOne) * 10 ^ fs.length
        _ = digit * 10 ^ fs.length * (10 ^ size * (4 * unitsInOne)) := by ring
        _ ≤ continued digit fs * (10 ^ size * (4 * unitsInOne)) := Nat.mul_le_mul_right _ (le_continued digit fs)
        _ = continued digit fs * 10 ^ size * (4 * unitsInOne) := (mul_assoc _ _ _).symm
    exact (hbounded.exponent_le hdigit.1).trans_lt (by rw [largestPower_eq]; decide)
  rw [if_neg (Nat.not_le.mpr hsize)]
  refine exists_scale _ (absorb_lt hlt fs) fun hexponent => ⟨hpos, ?_⟩
  rw [if_neg (by simp)] at hexponent ⊢
  generalize hgathered : absorb digit fs = gathered at *
  obtain ⟨significand, taken, left⟩ := gathered
  dsimp only at hle hlength hexponent ⊢
  obtain ⟨k, rfl⟩ : ∃ k, size = k + taken := ⟨size - taken, by omega⟩
  have hk : (((0 : Nat) : Int) - taken + (k + taken : Nat)).toNat = k := by omega
  rw [hk]
  refine Nat.le_of_mul_le_mul_right (Nat.le_trans ?_ h) hscale
  calc significand * 10 ^ k * (4 * unitsInOne) * 10 ^ fs.length
    _ = significand * 10 ^ left * (10 ^ (k + taken) * (4 * unitsInOne)) := by rw [← hlength]; ring
    _ ≤ continued digit fs * (10 ^ (k + taken) * (4 * unitsInOne)) := Nat.mul_le_mul_right _ hle
    _ = continued digit fs * 10 ^ (k + taken) * (4 * unitsInOne) := (mul_assoc _ _ _).symm

end RunWatch.Decimal
