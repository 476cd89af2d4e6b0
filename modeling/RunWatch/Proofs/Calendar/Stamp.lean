import RunWatch.Calendar.Stamp
import RunWatch.Proofs.Text.Digits

/-!
# Stamps written and read

An instant is read back from its stamp (`Instant.ofStamp?_stamp`), leap seconds and years of any length
included.  Each part of a stamp has a lemma that says how it is read in front of what follows it.
-/

namespace RunWatch.Instant

open Text (EndsDigits Spells spells_padded length_padded endsDigits_cons)

theorem isBlank_of_isDigit {c : Char} (hc : c.isDigit = true) : Text.isBlank c = false := by
  obtain ⟨hlow, hhigh⟩ := (Text.isDigit_iff c).mp hc
  have hlow : 48 ≤ c.toNat := UInt32.le_iff_toNat_le.mp hlow
  have hhigh : c.toNat ≤ 57 := UInt32.le_iff_toNat_le.mp hhigh
  simp only [Text.isBlank, Bool.or_eq_false_iff, Bool.and_eq_false_iff, decide_eq_false_iff_not]
  omega

theorem trimLeft_cons {c : Char} (hc : Text.isBlank c = false) (cs : List Char) :
    Text.trimLeft (c :: cs) = c :: cs := by
  simp [Text.trimLeft, hc]

/-- A numeral has no blanks in front. -/
theorem trimLeft_spells {cs : List Char} {n : Nat} (h : Spells cs n) (rest : List Char) :
    Text.trimLeft (cs ++ rest) = cs ++ rest := by
  cases cs with
  | nil => exact absurd rfl h.nonempty
  | cons c cs => exact trimLeft_cons (isBlank_of_isDigit (h.digits c List.mem_cons_self)) (cs ++ rest)

/-- A numeral that is as long as its field is wide ends there, whatever follows. -/
theorem readNumber?_padded (width : Nat) {n : Nat} (hwidth : 0 < width) (hn : n < 10 ^ width) (rest : List Char) :
    readNumber? width (Text.padded width n ++ rest) = some (n, rest) := by
  have hspells := spells_padded width n
  obtain ⟨d, ds, hspan, hvalue, -⟩ := hspells.spanDigits Text.endsDigits_nil
  rw [List.append_nil] at hspan
  have hlength := length_padded hwidth hn
  simp only [readNumber?, trimLeft_spells hspells, List.take_left' hlength, List.drop_left' hlength, hspan, hvalue,
    List.nil_append]

theorem readMark?_cons (mark : Char) (hmark : Text.isBlank mark = false) (rest : List Char) :
    readMark? mark (mark :: rest) = some rest := by
  simp [readMark?, trimLeft_cons hmark]

theorem readYear?_yearText {year : Int} (rest : List Char) :
    readYear? (yearText year ++ '-' :: rest) = some (year, '-' :: rest) := by
  have hspells := spells_padded 4 year.natAbs
  obtain ⟨d, ds, hspan, hvalue, -⟩ := hspells.spanDigits (endsDigits_cons (c := '-') rfl rest)
  by_cases hneg : year < 0
  · have hminus : yearText year = '-' :: Text.padded 4 year.natAbs := if_pos hneg
    rw [hminus, List.cons_append, readYear?, trimLeft_cons rfl]
    simp only [hspan, hvalue]
    have hvalue : -(year.natAbs : Int) = year := by omega
    rw [hvalue]
  · by_cases hlong : 9999 < year
    · have hplus : yearText year = '+' :: Text.padded 4 year.natAbs := by
        rw [yearText, if_neg hneg, if_pos hlong]
      rw [hplus, List.cons_append, readYear?, trimLeft_cons rfl]
      simp only [hspan, hvalue]
      have hvalue : (year.natAbs : Int) = year := by omega
      rw [hvalue]
    · have hplain : yearText year = Text.padded 4 year.natAbs := by
        rw [yearText, if_neg hneg, if_neg hlong]
      have hread := readNumber?_padded 4 (n := year.natAbs) (by decide) (by omega) ('-' :: rest)
      have hvalue : (year.natAbs : Int) = year := by omega
      rw [hplain, readYear?, trimLeft_spells hspells]
      split
      · rename_i heq
        exact absurd (hspells.isDigit_head heq) (by decide)
      · rename_i heq
        exact absurd (hspells.isDigit_head heq) (by decide)
      · rw [hread, Option.map_some, hvalue]

theorem readFraction?_digits (width : Nat) {n : Nat} (hwidth : 0 < width ∧ width ≤ 9) (hn : n < 10 ^ width)
    (rest : List Char) (hrest : EndsDigits rest) :
    readFraction? ('.' :: Text.padded width n ++ rest) = some (n * 10 ^ (9 - width), rest) := by
  obtain ⟨d, ds, hspan, hvalue, hlength⟩ := (spells_padded width n).spanDigits hrest
  rw [length_padded hwidth.1 hn] at hlength
  have htake : (d :: ds).take 9 = d :: ds := List.take_of_length_le (by omega)
  simp only [List.cons_append, readFraction?, hspan, htake, hvalue, hlength]
  rfl

/-- A fraction is read as its nanoseconds; digits are left out only where there are zeros. -/
theorem readFraction?_fractionText {n : Nat} (hn : n < 1000000000) :
    readFraction? (fractionText n ++ ['Z']) = some (n, ['Z']) := by
  have hrest : EndsDigits ['Z'] := endsDigits_cons rfl []
  by_cases hzero : n = 0
  · simp [fractionText, hzero, readFraction?]
  · by_cases hmilli : n % 1000000 = 0
    · have hread := readFraction?_digits 3 (n := n / 1000000) (by decide) (by omega) ['Z'] hrest
      have hvalue : n / 1000000 * 10 ^ (9 - 3) = n := by omega
      rw [fractionText, if_neg hzero, if_pos hmilli, hread, hvalue]
    · by_cases hmicro : n % 1000 = 0
      · have hread := readFraction?_digits 6 (n := n / 1000) (by decide) (by omega) ['Z'] hrest
        have hvalue : n / 1000 * 10 ^ (9 - 6) = n := by omega
        rw [fractionText, if_neg hzero, if_neg hmilli, if_pos hmicro, hread, hvalue]
      · have hread := readFraction?_digits 9 (n := n) (by decide) (by omega) ['Z'] hrest
        have hvalue : n * 10 ^ (9 - 9) = n := by omega
        rw [fractionText, if_neg hzero, if_neg hmilli, if_neg hmicro, hread, hvalue]

/-- In UTC the clock shows the instant itself. -/
theorem ofLocal?_utc (t : Instant) : ofLocal? t.date t.second t.nanosecond 0 = some t := by
  have hsecond := t.valid.1
  have hshifted : ((t.second : Int) - 0).toNat = t.second := by omega
  rw [ofLocal?, if_neg (by omega), if_pos (by omega), hshifted, of?, dif_pos t.valid]

/-- The time of day that a stamp shows is read as the instant; second sixty is a leap second. -/
theorem ofClock?_stamp (t : Instant) :
    ofClock? t.date (t.second / 3600) (t.second / 60 % 60) (if 1000000000 ≤ t.nanosecond then 60 else t.second % 60)
      (if 1000000000 ≤ t.nanosecond then t.nanosecond - 1000000000 else t.nanosecond) 0 = some t := by
  obtain ⟨hsecond, hnano⟩ := t.valid
  have hutc := ofLocal?_utc t
  by_cases hleap : 1000000000 ≤ t.nanosecond
  · have hlast : t.second / 3600 * 3600 + t.second / 60 % 60 * 60 + 59 = t.second := by omega
    have hfraction : t.nanosecond - 1000000000 + 1000000000 = t.nanosecond := by omega
    rw [if_pos hleap, if_pos hleap, ofClock?, if_pos (by omega), if_pos rfl, hlast, hfraction, hutc]
  · have hsum : t.second / 3600 * 3600 + t.second / 60 % 60 * 60 + t.second % 60 = t.second := by omega
    rw [if_neg hleap, if_neg hleap, ofClock?, if_pos (by omega), if_neg (by omega), hsum, hutc]

/-- An instant is read back from its stamp. -/
theorem ofStamp?_stamp (t : Instant) : ofStamp? t.stamp = some t := by
  obtain ⟨hsecond, hnano⟩ := t.valid
  obtain ⟨⟨hmonth, hmonth'⟩, ⟨hday, hday'⟩, hyear⟩ := t.date.valid
  have hlast : Date.daysIn t.date.year t.date.month ≤ 31 := by
    unfold Date.daysIn
    split
    · split <;> omega
    · split <;> omega
  have hdate : Date.of? t.date.year t.date.month t.date.day = some t.date := dif_pos t.date.valid
  let leap := 1000000000 ≤ t.nanosecond
  let seconds := if leap then 60 else t.second % 60
  let fraction := if leap then t.nanosecond - 1000000000 else t.nanosecond
  have hseconds : seconds < 100 := by
    change (if 1000000000 ≤ t.nanosecond then 60 else t.second % 60) < 100
    split <;> omega
  have hfraction : fraction < 1000000000 := by
    change (if 1000000000 ≤ t.nanosecond then t.nanosecond - 1000000000 else t.nanosecond) < 1000000000
    split <;> omega
  have hclock : ofClock? t.date (t.second / 3600) (t.second / 60 % 60) seconds fraction 0 = some t :=
    ofClock?_stamp t
  have hchars : t.stampChars = yearText t.date.year ++ '-' :: (Text.padded 2 t.date.month ++ '-' ::
      (Text.padded 2 t.date.day ++ 'T' :: (Text.padded 2 (t.second / 3600) ++ ':' ::
        (Text.padded 2 (t.second / 60 % 60) ++ ':' ::
          (Text.padded 2 seconds ++ (fractionText fraction ++ ['Z'])))))) := by
    simp only [stampChars, List.append_assoc, List.cons_append]
    rfl
  have hpair : ∀ {n : Nat}, n < 100 → ∀ rest, readNumber? 2 (Text.padded 2 n ++ rest) = some (n, rest) :=
    fun hn rest => readNumber?_padded 2 (by decide) hn rest
  have hoffset : readOffset? (Text.trimLeft ['Z']) = some (0, []) := rfl
  -- One part of the stamp after the other, in the order in which they are read.
  rw [ofStamp?, stamp, String.toList_ofList, hchars, ofStampChars?]
  refine Option.bind_eq_some_iff.mpr ⟨_, readYear?_yearText _, ?_⟩
  refine Option.bind_eq_some_iff.mpr ⟨_, readMark?_cons '-' rfl _, ?_⟩
  refine Option.bind_eq_some_iff.mpr ⟨_, hpair (by omega) _, ?_⟩
  refine Option.bind_eq_some_iff.mpr ⟨_, readMark?_cons '-' rfl _, ?_⟩
  refine Option.bind_eq_some_iff.mpr ⟨_, hpair (by omega) _, ?_⟩
  refine Option.bind_eq_some_iff.mpr ⟨_, rfl, ?_⟩
  refine Option.bind_eq_some_iff.mpr ⟨_, hpair (by omega) _, ?_⟩
  refine Option.bind_eq_some_iff.mpr ⟨_, readMark?_cons ':' rfl _, ?_⟩
  refine Option.bind_eq_some_iff.mpr ⟨_, hpair (by omega) _, ?_⟩
  refine Option.bind_eq_some_iff.mpr ⟨_, readMark?_cons ':' rfl _, ?_⟩
  refine Option.bind_eq_some_iff.mpr ⟨_, hpair hseconds _, ?_⟩
  refine Option.bind_eq_some_iff.mpr ⟨_, readFraction?_fractionText hfraction, ?_⟩
  refine Option.bind_eq_some_iff.mpr ⟨_, hoffset, ?_⟩
  exact Option.bind_eq_some_iff.mpr ⟨_, hdate, hclock⟩

end RunWatch.Instant
