import RunWatch.Proofs.Binary64.Decimal
import RunWatch.Proofs.Binary64.Shortest
import RunWatch.Proofs.Json.Numbers

/-!
# Floating-point numbers written and read

What a number is written as is read as a number (`Number.readable`), though a floating-point number may come back
changed in its last place.  The one thing that could go wrong is overflow.  The decimal a number is written as is not
above the interval that rounds to it, so only the two largest numbers come near to where the roundings of the reader
might overflow; these two are computed.
-/

namespace RunWatch.Json

open Binary64 (Shortened topUnit topExponent topExponent_eq)

/-! ## Parts of a numeral -/

/-- The digits that characters stand for. -/
def digitsOf (cs : List Char) : List Nat := cs.map fun c => c.toNat - '0'.toNat

theorem lt_ten_of_isDigit {c : Char} (hc : c.isDigit = true) : c.toNat - '0'.toNat < 10 := by
  obtain ⟨-, hle⟩ := (Text.isDigit_iff c).mp hc
  have hle : c.toNat ≤ '9'.toNat := hle
  have hnine : '9'.toNat = 57 := rfl
  have hzero : '0'.toNat = 48 := rfl
  omega

theorem pos_of_isDigit {c : Char} (hc : c.isDigit = true) (hne : c ≠ '0') : 0 < c.toNat - '0'.toNat := by
  obtain ⟨hle, -⟩ := (Text.isDigit_iff c).mp hc
  have hle : '0'.toNat ≤ c.toNat := hle
  have hval : c.toNat ≠ '0'.toNat := fun h => hne (Char.toNat_inj.mp h)
  omega

theorem lt_ten_of_mem_digitsOf {cs : List Char} (hcs : ∀ c ∈ cs, c.isDigit = true) : ∀ d ∈ digitsOf cs, d < 10 := by
  intro d hd
  obtain ⟨c, hc, rfl⟩ := List.mem_map.mp hd
  exact lt_ten_of_isDigit (hcs c hc)

/-- Digits in front of a point or an exponent, zero alone or without a zero in front. -/
theorem readWhole_digits {c : Char} {cs rest : List Char} (hcs : ∀ c' ∈ c :: cs, c'.isDigit = true)
    (hzero : c = '0' → cs = []) (hrest : Text.EndsDigits rest) :
    readWhole (c :: cs ++ rest) = some (digitsOf (c :: cs), rest) := by
  by_cases hc : c = '0'
  · obtain rfl := hzero hc
    obtain rfl := hc
    rfl
  · rw [List.cons_append, readWhole.eq_2 _ fun cs' h => hc (List.cons.inj h).1, ← List.cons_append,
      Text.spanDigits_append hcs hrest]
    rfl

theorem readFraction_digits {cs rest : List Char} (hcs : ∀ c ∈ cs, c.isDigit = true) (hne : cs ≠ [])
    (hrest : Text.EndsDigits rest) : readFraction ('.' :: (cs ++ rest)) = some (some (digitsOf cs), rest) := by
  rw [readFraction, Text.spanDigits_append hcs hrest]
  cases cs with
  | nil => exact absurd rfl hne
  | cons c cs => rfl

theorem ofDigits_digitsOf_toDigits (n : Nat) : Text.ofDigits (digitsOf (Nat.toDigits 10 n)) = n :=
  (Text.ofDigits_map _).trans (Text.spells_toDigits n).value

theorem readExponent_toDigits (negative : Bool) (n : Nat) :
    readExponent ('e' :: (if negative then '-' else '+') :: Nat.toDigits 10 n) =
      some (some (negative, digitsOf (Nat.toDigits 10 n)), []) := by
  have hspan := Text.spanDigits_append (Text.spells_toDigits n).digits Text.endsDigits_nil
  rw [List.append_nil, ← digitsOf] at hspan
  have hdigits : readExponentDigits negative (Nat.toDigits 10 n) =
      some (some (negative, digitsOf (Nat.toDigits 10 n)), []) := by
    rw [readExponentDigits, hspan]
    cases hne : digitsOf (Nat.toDigits 10 n) with
    | nil => exact absurd (List.map_eq_nil_iff.mp hne) Nat.toDigits_ne_nil
    | cons d ds => rfl
  cases negative <;> exact hdigits

/-- A numeral with a fraction or an exponent is a floating-point number. -/
theorem readNumber_float {negative : Bool} {cs r₁ r₂ : List Char} {whole : List Nat} {fraction : Option (List Nat)}
    {exponent : Option (Bool × List Nat)} (hwhole : readWhole cs = some (whole, r₁))
    (hfraction : readFraction r₁ = some (fraction, r₂)) (hexponent : readExponent r₂ = some (exponent, []))
    (hfloat : fraction.isSome ∨ exponent.isSome)
    (hvalue : ∃ x, Decimal.value? ⟨negative, whole, fraction, exponent⟩ = some x) :
    ∃ x, readNumber negative cs = some (.number (.float x), []) := by
  obtain ⟨x, hx⟩ := hvalue
  have htree : numeralTree ⟨negative, whole, fraction, exponent⟩ = .number (.float x) := by
    have hdecimal : Number.ofDecimal? ⟨negative, whole, fraction, exponent⟩ = some (.float x) := by
      cases fraction <;> cases exponent
      · simp at hfloat
      all_goals rw [Number.ofDecimal?, hx]; rfl
    rw [numeralTree, hdecimal]
  exact ⟨x, by simp [readNumber, readNumeral, hwhole, hfraction, hexponent, htree]⟩

/-! ## Layouts -/

/-- A numeral with a point and no exponent has a number if at most nineteen digits stand in front of the point. -/
theorem readNumber_point (negative : Bool) {c : Char} {cs fs : List Char} (hcs : ∀ c' ∈ c :: cs, c'.isDigit = true)
    (hzero : c = '0' → cs = []) (hlength : (c :: cs).length ≤ 19) (hfs : ∀ c' ∈ fs, c'.isDigit = true) (hne : fs ≠ []) :
    ∃ x, readNumber negative (c :: cs ++ '.' :: fs) = some (.number (.float x), []) := by
  have hpoint : Text.EndsDigits ('.' :: fs) := Text.endsDigits_cons (by decide) fs
  have hfraction := readFraction_digits hfs hne Text.endsDigits_nil
  rw [List.append_nil] at hfraction
  refine readNumber_float (readWhole_digits hcs hzero hpoint) hfraction rfl (.inl rfl) ?_
  exact Decimal.exists_value?_of_places (lt_ten_of_mem_digitsOf hcs) (by rwa [digitsOf, List.length_map]) nofun

/-- The digits behind the point in the layout with an exponent, where there is no point behind a single digit. -/
def fractionOf (cs : List Char) : Option (List Nat) :=
  if cs = [] then none else some (digitsOf cs)

theorem getD_fractionOf (cs : List Char) : (fractionOf cs).getD [] = digitsOf cs := by
  cases cs <;> rfl

/-- What is written in the layout with an exponent. -/
def exponentialDecimal (negative : Bool) (c : Char) (cs : List Char) (leading : Int) : Decimal :=
  ⟨negative, digitsOf [c], fractionOf cs, some (decide (leading < 0), digitsOf (Nat.toDigits 10 leading.natAbs))⟩

theorem readNumber_exponential {negative : Bool} {c : Char} {cs : List Char} (hcs : ∀ c' ∈ c :: cs, c'.isDigit = true)
    {leading : Int} (hvalue : ∃ x, (exponentialDecimal negative c cs leading).value? = some x) :
    ∃ x, readNumber negative (Binary64.exponential (c :: cs) leading) = some (.number (.float x), []) := by
  have hexponent := readExponent_toDigits (decide (leading < 0)) leading.natAbs
  simp only [decide_eq_true_eq] at hexponent
  have hsmall (rest : List Char) : Text.EndsDigits ('e' :: rest) := Text.endsDigits_cons (by decide) rest
  have hfirst : ∀ c' ∈ [c], c'.isDigit = true := List.forall_mem_singleton.mpr (hcs c List.mem_cons_self)
  cases cs with
  | nil =>
    have hfraction (rest : List Char) : readFraction ('e' :: rest) = some (none, 'e' :: rest) := by simp [readFraction]
    have htext : Binary64.exponential [c] leading =
        [c] ++ 'e' :: (if leading < 0 then '-' else '+') :: Nat.toDigits 10 leading.natAbs := by
      simp [Binary64.exponential]
    rw [htext]
    exact readNumber_float (readWhole_digits hfirst (fun _ => rfl) (hsmall _)) (hfraction _) hexponent (.inr rfl) hvalue
  | cons c' cs =>
    have hpoint (rest : List Char) : Text.EndsDigits ('.' :: rest) := Text.endsDigits_cons (by decide) rest
    have hfraction := readFraction_digits (fun c'' hc => hcs c'' (List.mem_cons_of_mem c hc)) (List.cons_ne_nil c' cs)
      (hsmall ((if leading < 0 then '-' else '+') :: Nat.toDigits 10 leading.natAbs))
    have htext : Binary64.exponential (c :: c' :: cs) leading =
        [c] ++ '.' :: (c' :: cs ++ 'e' :: (if leading < 0 then '-' else '+') :: Nat.toDigits 10 leading.natAbs) := by
      simp [Binary64.exponential]
    rw [htext]
    exact readNumber_float (readWhole_digits hfirst (fun _ => rfl) (hpoint _)) hfraction hexponent (.inl rfl) hvalue

/-- A numeral laid out with no exponent is read as a number. -/
theorem readNumber_positional (negative : Bool) {c : Char} {cs : List Char} (hcs : ∀ c' ∈ c :: cs, c'.isDigit = true)
    (hzero : c = '0' → cs = []) {leading : Int} (hzeroLeading : c = '0' → leading = 0) (hleading : leading < 16) :
    ∃ x, readNumber negative (Binary64.positional (c :: cs) leading) = some (.number (.float x), []) := by
  unfold Binary64.positional
  split
  · have hfs : ∀ c' ∈ List.replicate (leading.natAbs - 1) '0' ++ (c :: cs), c'.isDigit = true := by
      intro c' hc'
      rcases List.mem_append.mp hc' with hc' | hc'
      · rw [List.eq_of_mem_replicate hc']
        rfl
      · exact hcs c' hc'
    exact @readNumber_point negative '0' [] _ (by simp) (fun _ => rfl) (by simp) hfs (by simp)
  · dsimp only
    split
    · rename_i hlength
      rw [List.cons_append]
      refine readNumber_point negative (fun c' hc' => ?_) (fun hc => ?_) ?_ (by simp) (by simp)
      · rw [← List.cons_append] at hc'
        rcases List.mem_append.mp hc' with hc' | hc'
        · exact hcs c' hc'
        · rw [List.eq_of_mem_replicate hc']
          rfl
      · rw [hzero hc, hzeroLeading hc]
        rfl
      · rw [← List.cons_append, List.length_append, List.length_replicate]
        omega
    · rename_i hlength
      rw [List.take_succ_cons, List.append_assoc, List.singleton_append]
      refine readNumber_point negative (fun c' hc' => ?_) (fun hc => ?_) ?_ (fun c' hc' => ?_) ?_
      · rw [← List.take_succ_cons] at hc'
        exact hcs c' (List.mem_of_mem_take hc')
      · rw [hzero hc, List.take_nil]
      · rw [List.length_cons, List.length_take]
        omega
      · exact hcs c' (List.mem_of_mem_drop hc')
      · exact fun hnil => hlength (List.drop_eq_nil_iff.mp hnil)

/-! ## Numbers -/

/-- Below the two largest numbers the interval that rounds to a number stays clear of overflow. -/
theorem interval_high_le {x : Binary64} (h : x.significand ≤ 2 ^ 53 - 3 ∨ x.exponent < topExponent) :
    x.interval.high ≤ (2 ^ 55 - 10) * topUnit := by
  have hlt := x.significand_lt
  have hle := x.exponent_le
  have hhigh : x.interval.high = (4 * x.significand + 2) * 2 ^ x.exponent := by
    rw [← Nat.one_mul (2 ^ x.exponent), ← Nat.shiftLeft_eq]
    rfl
  rw [hhigh]
  by_cases hexponent : x.exponent < topExponent
  · have hunit : 2 * 2 ^ x.exponent ≤ topUnit := by
      rw [← pow_succ']
      exact Nat.pow_le_pow_right Nat.two_pos hexponent
    calc (4 * x.significand + 2) * 2 ^ x.exponent
      _ ≤ (2 ^ 55 - 2) * 2 ^ x.exponent := Nat.mul_le_mul_right _ (by omega)
      _ ≤ (2 ^ 55 - 10) * topUnit := by omega
  · exact Nat.mul_le_mul (by omega) (Nat.pow_le_pow_right Nat.two_pos hle)

theorem exists_value?_of_shortened {x : Binary64} {c : Char} {cs : List Char} {leading : Int}
    (h : Shortened x (c :: cs) leading) (hc : c ≠ '0') (hleading : 0 ≤ leading)
    (hclear : x.significand ≤ 2 ^ 53 - 3 ∨ x.exponent < topExponent) :
    ∃ y, (exponentialDecimal x.negative c cs leading).value? = some y := by
  have hdigit : c.isDigit = true := h.digits c List.mem_cons_self
  have hsign : decide (leading < 0) = false := by simpa using hleading
  have hnat : leading.natAbs = leading.toNat := by omega
  have hcontinued : Decimal.continued (c.toNat - '0'.toNat) (digitsOf cs) = Nat.ofDigitChars 10 (c :: cs) 0 := by
    rw [← Text.ofDigits_map, List.map_cons, ← digitsOf]
    change _ = Decimal.continued (10 * 0 + (c.toNat - '0'.toNat)) (digitsOf cs)
    rw [Nat.mul_zero, Nat.zero_add]
  rw [exponentialDecimal, hsign]
  refine Decimal.exists_value?_of_bounded _ ⟨pos_of_isDigit hdigit hc, lt_ten_of_isDigit hdigit⟩ _ _ ?_
  rw [getD_fractionOf, ofDigits_digitsOf_toDigits, hnat, hcontinued, ← Binary64.Interval.denominator_eq, digitsOf,
    List.length_map]
  exact (h.bounded hleading).trans (Nat.mul_le_mul_right _ (interval_high_le hclear))

/-- The two largest numbers of a sign. -/
def largest (negative : Bool) (k : Fin 2) : Binary64 :=
  ⟨negative, 2 ^ 53 - 1 - k, 2045, by revert k; decide⟩

/-- Their digits behind the first one. -/
def largestDigits (k : Fin 2) : List Char :=
  ['7', '9', '7', '6', '9', '3', '1', '3', '4', '8', '6', '2', '3', '1', '5', if k = 0 then '7' else '5']

theorem shortest_largest : ∀ negative k, (largest negative k).shortest = ('1' :: largestDigits k, 308) := by
  decide +kernel

theorem isSome_value?_largest :
    ∀ negative k, (exponentialDecimal negative '1' (largestDigits k) 308).value?.isSome = true := by
  decide +kernel

theorem exists_eq_largest {x : Binary64} (h : ¬(x.significand ≤ 2 ^ 53 - 3 ∨ x.exponent < topExponent)) :
    ∃ k, x = largest x.negative k := by
  have hlt := x.significand_lt
  have hle := x.exponent_le
  rw [topExponent_eq] at h hle
  obtain ⟨negative, significand, exponent, hcanonical⟩ := x
  dsimp only at h hlt hle
  obtain rfl : exponent = 2045 := by omega
  obtain rfl | rfl : significand = 2 ^ 53 - 1 ∨ significand = 2 ^ 53 - 2 := by omega
  · exact ⟨0, rfl⟩
  · exact ⟨1, rfl⟩

/-- The two largest numbers are read without overflow, too. -/
theorem exists_value?_of_largest {x : Binary64} {c : Char} {cs : List Char} {leading : Int}
    (h : x.shortest = (c :: cs, leading)) (hlargest : ¬(x.significand ≤ 2 ^ 53 - 3 ∨ x.exponent < topExponent)) :
    ∃ y, (exponentialDecimal x.negative c cs leading).value? = some y := by
  obtain ⟨k, hk⟩ := exists_eq_largest hlargest
  rw [hk, shortest_largest] at h
  cases h
  exact Option.isSome_iff_exists.mp (isSome_value?_largest x.negative k)

/-- The text of a number behind its sign. -/
def unsignedText (x : Binary64) : List Char :=
  if Binary64.Layout.standard.least ≤ x.shortest.2 ∧ x.shortest.2 < Binary64.Layout.standard.bound then
    Binary64.positional x.shortest.1 x.shortest.2
  else Binary64.exponential x.shortest.1 x.shortest.2

theorem text_eq_signed (x : Binary64) :
    x.text = if x.negative then '-' :: unsignedText x else unsignedText x := rfl

theorem readNumber_unsignedText (x : Binary64) :
    ∃ y, readNumber x.negative (unsignedText x) = some (.number (.float y), []) := by
  unfold unsignedText
  by_cases hx : x.significand = 0
  · have hshortest : x.shortest = (['0'], 0) := if_pos hx
    rw [hshortest]
    exact readNumber_positional x.negative (by simp) (fun _ => rfl) (fun _ => rfl) (by decide)
  · have hshortened := Binary64.shortened hx
    obtain ⟨c, cs, hdigits, hc⟩ := hshortened.head
    generalize hshortest : x.shortest = written at hshortened hdigits ⊢
    obtain ⟨ds, leading⟩ := written
    dsimp only at hshortened hdigits ⊢
    subst hdigits
    split
    · rename_i hlayout
      exact readNumber_positional x.negative hshortened.digits (fun h => absurd h hc) (fun h => absurd h hc) hlayout.2
    · refine readNumber_exponential hshortened.digits ?_
      by_cases hleading : 0 ≤ leading
      · by_cases hclear : x.significand ≤ 2 ^ 53 - 3 ∨ x.exponent < topExponent
        · exact exists_value?_of_shortened hshortened hc hleading hclear
        · exact exists_value?_of_largest hshortest hclear
      · have hfirst : ∀ c' ∈ [c], c'.isDigit = true :=
          List.forall_mem_singleton.mpr (hshortened.digits c List.mem_cons_self)
        have hlength : (digitsOf [c]).length ≤ 19 := by simp [digitsOf]
        refine Decimal.exists_value?_of_places (lt_ten_of_mem_digitsOf hfirst) hlength ?_
        rintro e ⟨⟩
        exact decide_eq_true (Int.lt_of_not_ge hleading)

theorem Number.readable_float (x : Binary64) : (Number.float x).Readable := by
  obtain ⟨y, hread⟩ := readNumber_unsignedText x
  have htext : readValue 1 0 (Number.float x).text = some (.number (.float y), []) := by
    rw [text, text_eq_signed]
    exact readValue_signed hread
  exact (readable_of_read htext).1

/-- Every number is read as some number from what it is written as. -/
theorem Number.readable (n : Number) : n.Readable := by
  cases n with
  | integer i => exact (Number.legible_integer i).readable
  | float x => exact readable_float x

end RunWatch.Json
