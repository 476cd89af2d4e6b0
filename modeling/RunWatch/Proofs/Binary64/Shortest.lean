import RunWatch.Binary64.Shortest
import RunWatch.Proofs.Binary64.Rounding
import RunWatch.Proofs.Text.Digits

/-!
# The shortest decimal of a number

Seventeen digits always suffice: the grid of that many digits is finer than the interval that rounds to a number, so
one of the two neighbours of the number lies inside (`exists_onGrid`) and the search finds a decimal.  What it finds is
inside the interval and not zero (`onGrid_some`), and the digits written are its digits without the zeros at their end
(`shortened`).
-/

namespace RunWatch.Binary64

/-! ## Powers of ten -/

theorem tenTo_eq (e : Int) : tenTo e = (10 ^ e.toNat, 10 ^ (-e).toNat) := by
  unfold tenTo
  split
  · have hzero : e.toNat = 0 := by omega
    have habs : (-e).toNat = e.natAbs := by omega
    rw [hzero, habs, pow_zero]
    rfl
  · have hzero : (-e).toNat = 0 := by omega
    rw [hzero, pow_zero]
    rfl

theorem decimalLength_pos (n : Nat) : 0 < decimalLength n :=
  List.length_pos_iff.mpr Nat.toDigits_ne_nil

theorem lt_ten_pow_decimalLength (n : Nat) : n < 10 ^ decimalLength n :=
  (Nat.length_toDigits_le_iff (by decide) (decimalLength_pos n)).mp (Nat.le_refl _)

theorem ten_pow_decimalLength_le {n : Nat} (hn : 0 < n) : 10 ^ (decimalLength n - 1) ≤ n := by
  by_cases hone : decimalLength n = 1
  · rw [hone]
    exact hn
  · have hpos := decimalLength_pos n
    by_contra hlt
    have hle := (Nat.length_toDigits_le_iff (n := n) (b := 10) (k := decimalLength n - 1) (by decide) (by omega)).mpr
      (Nat.lt_of_not_le hlt)
    unfold decimalLength at hone hpos hle
    omega

/-- A positive quotient is not below the power of ten of its leading digit. -/
theorem leadingExponent_le {num den : Nat} (hnum : 0 < num) (hden : 0 < den) :
    10 ^ (leadingExponent num den).toNat * den ≤ num * 10 ^ (-leadingExponent num den).toNat := by
  unfold leadingExponent
  split
  · rename_i hle
    have hlength := decimalLength_pos (num / den)
    have hup : ((decimalLength (num / den) : Int) - 1).toNat = decimalLength (num / den) - 1 := by omega
    have hdown : (-((decimalLength (num / den) : Int) - 1)).toNat = 0 := by omega
    rw [hup, hdown, pow_zero, mul_one]
    have hquotient := ten_pow_decimalLength_le (Nat.div_pos hle hden)
    exact (Nat.mul_le_mul_right den hquotient).trans (Nat.div_mul_le_self num den)
  · have hlength := decimalLength_pos (den / num)
    dsimp only
    split
    · rename_i hle
      have hup : (-((decimalLength (den / num) : Int) - 1)).toNat = 0 := by omega
      have hdown : (-(-((decimalLength (den / num) : Int) - 1))).toNat = decimalLength (den / num) - 1 := by omega
      rw [hup, hdown, pow_zero, one_mul]
      exact hle
    · have hup : (-(decimalLength (den / num) : Int)).toNat = 0 := by omega
      have hdown : (-(-(decimalLength (den / num) : Int))).toNat = decimalLength (den / num) := by omega
      rw [hup, hdown, pow_zero, one_mul, mul_comm num]
      exact Nat.le_of_lt ((Nat.div_lt_iff_lt_mul hnum).mp (lt_ten_pow_decimalLength _))

/-! ## Neighbours on the grid -/

theorem Interval.le_of_contains {i : Interval} {num den : Nat} (h : i.contains num den = true) :
    num * denominator ≤ i.high * den := by
  unfold contains at h
  dsimp only at h
  split at h
  · exact of_decide_eq_true (Bool.and_eq_true_iff.mp h).2
  · exact Nat.le_of_lt (of_decide_eq_true (Bool.and_eq_true_iff.mp h).2)

theorem Interval.contains_of_lt {i : Interval} {num den : Nat} (hlow : i.low * den < num * denominator)
    (hhigh : num * denominator < i.high * den) : i.contains num den = true := by
  unfold contains
  dsimp only
  split
  · exact Bool.and_eq_true_iff.mpr ⟨decide_eq_true (Nat.le_of_lt hlow), decide_eq_true (Nat.le_of_lt hhigh)⟩
  · exact Bool.and_eq_true_iff.mpr ⟨decide_eq_true hlow, decide_eq_true hhigh⟩

theorem Interval.denominator_eq : denominator = 4 * unitsInOne := by
  have hexponent : 1076 = oneExponent + 2 := by rw [oneExponent_eq]
  rw [denominator, hexponent, Nat.shiftLeft_eq, one_mul, pow_add, mul_comm, unitsInOne]
  rfl

theorem Interval.denominator_pos : 0 < Interval.denominator := by
  rw [denominator_eq]
  exact Nat.mul_pos (by decide) unitsInOne_pos

/-- The neighbour below the number on the grid of step `10 ^ e`. -/
def Interval.floorOn (i : Interval) (e : Int) : Nat :=
  i.value * (tenTo e).2 / ((tenTo e).1 * denominator)

/-- A decimal on the grid of step `10 ^ e` that reads back. -/
def Interval.Hits (i : Interval) (e : Int) (n : Nat) : Prop :=
  i.contains (n * (tenTo e).1) (tenTo e).2 = true

/-- If one of the two neighbours reads back, a neighbour that does is taken, unless it is zero. -/
theorem Interval.onGrid_cases (i : Interval) (e : Int) :
    (∃ n, (n = i.floorOn e ∨ n = i.floorOn e + 1) ∧ i.Hits e n ∧ i.onGrid e = if n = 0 then none else some n) ∨
      (¬i.Hits e (i.floorOn e) ∧ ¬i.Hits e (i.floorOn e + 1)) ∧ i.onGrid e = none := by
  have hround := roundQuotient_cases (i.value * (tenTo e).2) ((tenTo e).1 * denominator)
  rw [← floorOn] at hround
  have hgrid : i.onGrid e =
      (let below := i.contains (i.floorOn e * (tenTo e).1) (tenTo e).2
       let above := i.contains ((i.floorOn e + 1) * (tenTo e).1) (tenTo e).2
       let nearer := if below && above then roundQuotient (i.value * (tenTo e).2) ((tenTo e).1 * denominator)
         else if below then i.floorOn e else i.floorOn e + 1
       if (below || above) && nearer ≠ 0 then some nearer else none) := rfl
  generalize roundQuotient (i.value * (tenTo e).2) ((tenTo e).1 * denominator) = rounded at hround hgrid
  unfold Hits
  cases hbelow : i.contains (i.floorOn e * (tenTo e).1) (tenTo e).2 <;>
    cases habove : i.contains ((i.floorOn e + 1) * (tenTo e).1) (tenTo e).2 <;>
    rw [hbelow, habove] at hgrid
  · exact .inr ⟨⟨by simp, by simp⟩, hgrid⟩
  · exact .inl ⟨_, .inr rfl, habove, by simpa using hgrid⟩
  · exact .inl ⟨_, .inl rfl, hbelow, by simpa using hgrid⟩
  · refine .inl ⟨_, hround.imp And.left And.left, ?_, by simpa using hgrid⟩
    obtain ⟨rfl, -⟩ | ⟨rfl, -⟩ := hround
    · exact hbelow
    · exact habove

/-- What is found on a grid reads back. -/
theorem Interval.onGrid_some {i : Interval} {e : Int} {n : Nat} (h : i.onGrid e = some n) : 0 < n ∧ i.Hits e n := by
  obtain ⟨nearer, -, hhits, hgrid⟩ | ⟨-, hgrid⟩ := i.onGrid_cases e
  · rw [hgrid] at h
    split at h
    · cases h
    · rename_i hne
      cases h
      exact ⟨Nat.pos_of_ne_zero hne, hhits⟩
  · rw [hgrid] at h
    cases h

theorem tenTo_pos (e : Int) : 0 < (tenTo e).1 ∧ 0 < (tenTo e).2 := by
  rw [tenTo_eq]
  exact ⟨Nat.pow_pos (by decide), Nat.pow_pos (by decide)⟩

/-- An interval that is longer than a step has one of the neighbours inside. -/
theorem Interval.hits_neighbour {i : Interval} {e : Int} {below above : Nat} (hbelow : 0 < below) (habove : 0 < above)
    (hlow : i.low + below = i.value) (hhigh : i.high = i.value + above)
    (hlong : (tenTo e).1 * denominator < (below + above) * (tenTo e).2) :
    i.Hits e (i.floorOn e) ∨ i.Hits e (i.floorOn e + 1) := by
  obtain ⟨hnum, hden⟩ := tenTo_pos e
  have hbelowScaled := Nat.mul_pos hbelow hden
  have haboveScaled := Nat.mul_pos habove hden
  have hlowScaled : i.low * (tenTo e).2 + below * (tenTo e).2 = i.value * (tenTo e).2 := by rw [← Nat.add_mul, hlow]
  have hhighScaled : i.high * (tenTo e).2 = i.value * (tenTo e).2 + above * (tenTo e).2 := by rw [← Nat.add_mul, hhigh]
  have hmod := Nat.div_add_mod (i.value * (tenTo e).2) ((tenTo e).1 * denominator)
  have hlt := Nat.mod_lt (i.value * (tenTo e).2) (Nat.mul_pos hnum denominator_pos)
  rw [← floorOn, mul_comm _ (i.floorOn e)] at hmod
  rw [Nat.add_mul] at hlong
  generalize i.value * (tenTo e).2 % ((tenTo e).1 * denominator) = rest at hmod hlt
  -- the neighbour below is too far away only if it is farther than the gap below
  by_cases hfar : below * (tenTo e).2 ≤ rest
  · refine .inr (contains_of_lt ?_ ?_) <;> rw [mul_assoc, Nat.add_mul, one_mul] <;> omega
  · refine .inl (contains_of_lt ?_ ?_) <;> rw [mul_assoc] <;> omega

/-- The gaps between a number other than zero and the ends of its interval make up more than the sixteenth decimal
of the number. -/
theorem interval_gaps {x : Binary64} (hx : x.significand ≠ 0) : ∃ below above, 0 < below ∧ 0 < above ∧
    x.interval.low + below = x.interval.value ∧ x.interval.high = x.interval.value + above ∧
    x.interval.value < 10 ^ 16 * (below + above) := by
  have hlt := x.significand_lt
  have hunit : 0 < 1 <<< x.exponent := by
    rw [Nat.shiftLeft_eq, one_mul]
    exact Nat.two_pow_pos _
  unfold interval
  generalize 1 <<< x.exponent = unit at *
  have hgap (gap : Nat) (hgap : gap ≤ 4 * x.significand) :
      (4 * x.significand - gap) * unit + gap * unit = 4 * x.significand * unit := by
    rw [← Nat.add_mul, Nat.sub_add_cancel hgap]
  split
  · rename_i hpower
    have hsignificand : x.significand = 2 ^ 52 := hpower.1
    refine ⟨1 * unit, 2 * unit, by omega, by omega, hgap 1 (by omega), Nat.add_mul _ _ _, ?_⟩
    change 4 * x.significand * unit < _
    rw [hsignificand]
    omega
  · refine ⟨2 * unit, 2 * unit, by omega, by omega, hgap 2 (by omega), Nat.add_mul _ _ _, ?_⟩
    calc 4 * x.significand * unit
      _ < 4 * 2 ^ 53 * unit := Nat.mul_lt_mul_of_pos_right (by omega) hunit
      _ ≤ 10 ^ 16 * (2 * unit + 2 * unit) := by omega

/-- On a grid of seventeen digits there is a decimal that reads back. -/
theorem exists_onGrid {x : Binary64} (hx : x.significand ≠ 0) {e : Int}
    (hfine : 10 ^ 16 * ((tenTo e).1 * Interval.denominator) ≤ x.interval.value * (tenTo e).2) :
    ∃ n, x.interval.onGrid e = some n := by
  obtain ⟨hnum, hden⟩ := tenTo_pos e
  have hstep : 0 < (tenTo e).1 * Interval.denominator := Nat.mul_pos hnum Interval.denominator_pos
  have hfloor : 10 ^ 16 ≤ x.interval.floorOn e := (Nat.le_div_iff_mul_le hstep).mpr hfine
  obtain ⟨n, hn, -, hgrid⟩ | ⟨hneither, -⟩ := x.interval.onGrid_cases e
  · exact ⟨n, by rw [hgrid, if_neg (by omega)]⟩
  · obtain ⟨below, above, hbelow, habove, hlow, hhigh, hgaps⟩ := interval_gaps hx
    have hlong : (tenTo e).1 * Interval.denominator < (below + above) * (tenTo e).2 := by
      have hscaled := Nat.mul_lt_mul_of_pos_right hgaps hden
      rw [mul_assoc] at hscaled
      exact Nat.lt_of_mul_lt_mul_left (hfine.trans_lt hscaled)
    exact absurd (Interval.hits_neighbour hbelow habove hlow hhigh hlong) (not_or.mpr hneither)

/-! ## The search -/

theorem Interval.search_some {i : Interval} {leading : Int} (h : ∃ n, i.onGrid (leading - 16) = some n) 
    (more digits : Nat) (hdigits : digits + more = 17) :
    ∃ n e, i.search leading more digits = (n, e) ∧ i.onGrid e = some n := by
  induction more generalizing digits with
  | zero =>
    obtain ⟨n, hn⟩ := h
    have he : leading - (digits : Int) + 1 = leading - 16 := by omega
    exact ⟨n, leading - 16, by rw [search, he, hn]; rfl, hn⟩
  | succ more ih =>
    rw [search]
    split
    · rename_i n hn
      exact ⟨n, _, rfl, hn⟩
    · exact ih _ (by omega)

/-- The search for the shortest decimal of a number other than zero finds one that reads back. -/
theorem exists_search {x : Binary64} (hx : x.significand ≠ 0) : ∃ n e,
    x.interval.search (leadingExponent x.interval.value Interval.denominator) 16 1 = (n, e) ∧
      0 < n ∧ x.interval.Hits e n := by
  have hvalue : 0 < x.interval.value := by
    obtain ⟨below, above, hbelow, -, hlow, -⟩ := interval_gaps hx
    omega
  have hleading := leadingExponent_le hvalue Interval.denominator_pos
  generalize leadingExponent x.interval.value Interval.denominator = leading at hleading ⊢
  have hgrid : ∃ n, x.interval.onGrid (leading - 16) = some n := by
    refine exists_onGrid hx ?_
    rw [tenTo_eq]
    dsimp only
    -- both exponents move by sixteen, one up and the other down
    have hpow : 10 ^ 16 * 10 ^ (leading - 16).toNat * 10 ^ (-leading).toNat =
        10 ^ leading.toNat * 10 ^ (-(leading - 16)).toNat := by
      rw [← pow_add, ← pow_add, ← pow_add]
      congr 1
      omega
    have hpos : 0 < 10 ^ (-leading).toNat := Nat.pow_pos (by decide)
    refine Nat.le_of_mul_le_mul_right ?_ hpos
    calc 10 ^ 16 * (10 ^ (leading - 16).toNat * Interval.denominator) * 10 ^ (-leading).toNat
      _ = 10 ^ 16 * 10 ^ (leading - 16).toNat * 10 ^ (-leading).toNat * Interval.denominator := by
        rw [← mul_assoc, Nat.mul_right_comm]
      _ = 10 ^ leading.toNat * Interval.denominator * 10 ^ (-(leading - 16)).toNat := by
        rw [hpow, Nat.mul_right_comm]
      _ ≤ x.interval.value * 10 ^ (-leading).toNat * 10 ^ (-(leading - 16)).toNat :=
        Nat.mul_le_mul_right _ hleading
      _ = x.interval.value * 10 ^ (-(leading - 16)).toNat * 10 ^ (-leading).toNat := Nat.mul_right_comm _ _ _
  obtain ⟨n, e, hsearch, hn⟩ := Interval.search_some hgrid 16 1 rfl
  exact ⟨n, e, hsearch, Interval.onGrid_some hn⟩

/-! ## The digits -/

/-- The zeros at the end of digits only scale them. -/
theorem dropTrailingZeros_append (cs : List Char) : ∃ zeros, dropTrailingZeros cs ++ List.replicate zeros '0' = cs := by
  have hzeros : cs.reverse.takeWhile (· = '0') = List.replicate (cs.reverse.takeWhile (· = '0')).length '0' :=
    List.eq_replicate_of_mem fun c hc => of_decide_eq_true (List.all_eq_true.mp List.all_takeWhile c hc)
  refine ⟨(cs.reverse.takeWhile (· = '0')).length, ?_⟩
  rw [dropTrailingZeros, ← List.reverse_replicate, ← hzeros, ← List.reverse_append, List.takeWhile_append_dropWhile,
    List.reverse_reverse]

/-- The digits that a number other than zero is written with, and the decimal exponent of the first of them: they do
not begin with a zero, and the decimal is not above the interval that rounds to the number. -/
structure Shortened (x : Binary64) (ds : List Char) (leading : Int) : Prop where
  digits : ∀ c ∈ ds, c.isDigit = true
  head : ∃ c cs, ds = c :: cs ∧ c ≠ '0'
  bounded : 0 ≤ leading → Nat.ofDigitChars 10 ds 0 * 10 ^ leading.toNat * Interval.denominator ≤
    x.interval.high * 10 ^ (ds.length - 1)

theorem shortened {x : Binary64} (hx : x.significand ≠ 0) : Shortened x x.shortest.1 x.shortest.2 := by
  obtain ⟨n, e, hsearch, hn, hhits⟩ := exists_search hx
  have hshortest : x.shortest = (dropTrailingZeros (Nat.toDigits 10 n), e + (Nat.toDigits 10 n).length - 1) := by
    unfold shortest
    rw [if_neg hx]
    dsimp only
    rw [hsearch]
  obtain ⟨zeros, hdrop⟩ := dropTrailingZeros_append (Nat.toDigits 10 n)
  have hspells := Text.spells_toDigits n
  have hvalue := hspells.value
  rw [hshortest]
  dsimp only
  generalize dropTrailingZeros (Nat.toDigits 10 n) = ds at hdrop ⊢
  rw [← hdrop, Nat.ofDigitChars_append, Nat.ofDigitChars_replicate_zero] at hvalue
  have hne : ds ≠ [] := by
    rintro rfl
    exact absurd hvalue (by rw [Nat.ofDigitChars_nil, Nat.mul_zero]; exact Nat.ne_of_lt hn)
  refine ⟨fun c hc => hspells.digits c (by rw [← hdrop]; exact List.mem_append_left _ hc), ?_, fun hleading => ?_⟩
  · cases ds with
    | nil => exact absurd rfl hne
    | cons c cs =>
      refine ⟨c, cs, rfl, ?_⟩
      rintro rfl
      exact Text.head?_toDigits hn (by rw [← hdrop]; rfl)
  · have hle := Interval.le_of_contains hhits
    rw [tenTo_eq] at hle
    dsimp only at hle
    have hlength : (Nat.toDigits 10 n).length = ds.length + zeros := by
      rw [← hdrop, List.length_append, List.length_replicate]
    have hpow : 10 ^ (e + (Nat.toDigits 10 n).length - 1).toNat * 10 ^ (-e).toNat =
        10 ^ zeros * 10 ^ e.toNat * 10 ^ (ds.length - 1) := by
      have hpos := List.length_pos_iff.mpr hne
      rw [← pow_add, ← pow_add, ← pow_add]
      congr 1
      omega
    have hpos : 0 < 10 ^ (-e).toNat := Nat.pow_pos (by decide)
    generalize Nat.ofDigitChars 10 ds 0 = value at hvalue ⊢
    generalize (e + (Nat.toDigits 10 n).length - 1).toNat = exponent at hpow ⊢
    refine Nat.le_of_mul_le_mul_right ?_ hpos
    calc value * 10 ^ exponent * Interval.denominator * 10 ^ (-e).toNat
      _ = value * (10 ^ exponent * 10 ^ (-e).toNat) * Interval.denominator := by ring
      _ = 10 ^ zeros * value * 10 ^ e.toNat * Interval.denominator * 10 ^ (ds.length - 1) := by rw [hpow]; ring
      _ = n * 10 ^ e.toNat * Interval.denominator * 10 ^ (ds.length - 1) := by rw [hvalue]
      _ ≤ x.interval.high * 10 ^ (-e).toNat * 10 ^ (ds.length - 1) := Nat.mul_le_mul_right _ hle
      _ = x.interval.high * 10 ^ (ds.length - 1) * 10 ^ (-e).toNat := Nat.mul_right_comm _ _ _

end RunWatch.Binary64
