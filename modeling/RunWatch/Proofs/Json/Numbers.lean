import RunWatch.Json.Reader
import RunWatch.Json.Writer
import RunWatch.Proofs.Text.Digits

/-!
# Numbers written and read

A number is `Legible` if the text it is written as is read as that number again.  Every integer is
(`Number.legible_integer`); of floating-point numbers it depends on the rounding in the reader.  A numeral
that is read by itself is read just so in front of anything that does not go on with it, which is how the
numbers inside a value are read (`Number.Legible.readValue`).
-/

namespace RunWatch.Json

open Text (EndsDigits spells_toDigits)

/-! ## Numerals in front of other characters -/

/-- Characters that do not go on with a numeral. -/
structure EndsNumeral (cs : List Char) : Prop where
  digit : EndsDigits cs
  point : cs.head? ≠ some '.'
  small : cs.head? ≠ some 'e'
  capital : cs.head? ≠ some 'E'

theorem endsNumeral_nil : EndsNumeral [] :=
  ⟨Text.endsDigits_nil, nofun, nofun, nofun⟩

theorem spanDigits_append_of_ends {cs rest r : List Char} {ds : List Nat} (h : Text.spanDigits cs = (ds, r))
    (hrest : EndsDigits rest) : Text.spanDigits (cs ++ rest) = (ds, r ++ rest) := by
  induction cs generalizing ds with
  | nil =>
    cases h
    exact @Text.spanDigits_append [] rest nofun hrest
  | cons c cs ih =>
    rw [List.cons_append, Text.spanDigits]
    rw [Text.spanDigits] at h
    cases hc : Text.digit? c with
    | some d =>
      rw [hc] at h
      cases h
      rw [ih rfl]
    | none =>
      rw [hc] at h
      cases h
      rfl

theorem readWhole_append {cs rest r : List Char} {ds : List Nat} (h : readWhole cs = some (ds, r))
    (hrest : EndsNumeral rest) : readWhole (cs ++ rest) = some (ds, r ++ rest) := by
  unfold readWhole at h
  split at h
  · cases h
    rfl
  · rename_i hzero
    cases hspan : Text.spanDigits cs with
    | mk ds' r' =>
      rw [hspan] at h
      cases cs with
      | nil => cases hspan; cases h
      | cons c cs =>
        cases ds' with
        | nil => cases h
        | cons d ds' =>
          cases h
          rw [List.cons_append, readWhole.eq_2 _ fun cs' h => hzero cs (by cases h; rfl), ← List.cons_append,
            spanDigits_append_of_ends hspan hrest.digit]

theorem readFraction_append {cs rest r : List Char} {ds : Option (List Nat)}
    (h : readFraction cs = some (ds, r)) (hrest : EndsNumeral rest) :
    readFraction (cs ++ rest) = some (ds, r ++ rest) := by
  unfold readFraction at h
  split at h
  · rename_i cs
    cases hspan : Text.spanDigits cs with
    | mk ds' r' =>
      rw [hspan] at h
      cases ds' with
      | nil => cases h
      | cons d ds' =>
        cases h
        rw [List.cons_append, readFraction, spanDigits_append_of_ends hspan hrest.digit]
  · rename_i hpoint
    cases h
    rw [readFraction.eq_2]
    intro cs' heq
    cases cs with
    | nil => exact hrest.point (by rw [show rest = _ from heq]; rfl)
    | cons c cs => exact hpoint cs (by cases heq; rfl)

theorem readExponentDigits_append {negative : Bool} {cs rest r : List Char} {e : Option (Bool × List Nat)}
    (h : readExponentDigits negative cs = some (e, r)) (hrest : EndsNumeral rest) :
    readExponentDigits negative (cs ++ rest) = some (e, r ++ rest) := by
  unfold readExponentDigits at h
  cases hspan : Text.spanDigits cs with
  | mk ds r' =>
    rw [hspan] at h
    cases ds with
    | nil => cases h
    | cons d ds =>
      cases h
      rw [readExponentDigits, spanDigits_append_of_ends hspan hrest.digit]

theorem readExponent_append {cs rest r : List Char} {e : Option (Bool × List Nat)}
    (h : readExponent cs = some (e, r)) (hrest : EndsNumeral rest) :
    readExponent (cs ++ rest) = some (e, r ++ rest) := by
  cases cs with
  | nil =>
    cases h
    cases rest with
    | nil => rfl
    | cons c rest =>
      have hsmall : c ≠ 'e' := fun hc => hrest.small (by rw [hc]; rfl)
      have hcapital : c ≠ 'E' := fun hc => hrest.capital (by rw [hc]; rfl)
      simp [readExponent, hsmall, hcapital]
  | cons c cs =>
    unfold readExponent at h ⊢
    dsimp only [List.cons_append] at h ⊢
    by_cases hc : c = 'e' ∨ c = 'E'
    · rw [if_pos hc] at h ⊢
      split at h
      · exact readExponentDigits_append h hrest
      · exact readExponentDigits_append h hrest
      · rename_i hplus hminus
        have happend := readExponentDigits_append h hrest
        cases cs with
        | nil => cases h
        | cons c' cs =>
          split
          · rename_i heq
            cases heq
            exact absurd rfl (hplus cs)
          · rename_i heq
            cases heq
            exact absurd rfl (hminus cs)
          · exact happend
    · rw [if_neg hc] at h ⊢
      cases h
      rfl

theorem readNumber_append {negative : Bool} {cs rest r : List Char} {t : Tree}
    (h : readNumber negative cs = some (t, r)) (hrest : EndsNumeral rest) :
    readNumber negative (cs ++ rest) = some (t, r ++ rest) := by
  obtain ⟨⟨d, r₃⟩, hnumeral, heq⟩ := Option.bind_eq_some_iff.mp h
  obtain ⟨⟨whole, r₁⟩, hwhole, hnumeral⟩ := Option.bind_eq_some_iff.mp hnumeral
  obtain ⟨⟨fraction, r₂⟩, hfraction, hnumeral⟩ := Option.bind_eq_some_iff.mp hnumeral
  obtain ⟨⟨exponent, r₃'⟩, hexponent, hd⟩ := Option.bind_eq_some_iff.mp hnumeral
  cases hd
  cases heq
  simp [readNumber, readNumeral, readWhole_append hwhole hrest, readFraction_append hfraction hrest,
    readExponent_append hexponent hrest]

/-! ## Blanks in front -/

theorem skipGaps_cons {c : Char} (hc : isGap c = false) (cs : List Char) : skipGaps (c :: cs) = c :: cs := by
  simp [skipGaps, hc]

theorem skipGaps_append {c : Char} {cs r : List Char} (h : skipGaps cs = c :: r) (rest : List Char) :
    skipGaps (cs ++ rest) = c :: (r ++ rest) := by
  unfold skipGaps at h ⊢
  rw [List.dropWhile_append, h]
  rfl

/-! ## Numbers -/

/-- A number whose text is read as the number again, up to the end of the text. -/
def Number.Legible (n : Number) : Prop :=
  readValue 1 0 n.text = some (.number n, [])

/-- A value that begins with none of the marks is a numeral without a sign. -/
theorem readValue_unmarked {fuel levels : Nat} {c : Char} {cs r : List Char} (hskip : skipGaps cs = c :: r)
    (hc : c ∉ ['"', '[', '{', '-', 't', 'f', 'n']) :
    readValue (fuel + 1) levels cs = readNumber false (c :: r) := by
  simp only [List.mem_cons, List.not_mem_nil, or_false, not_or] at hc
  obtain ⟨hquote, hbracket, hbrace, hminus, ht, hf, hn⟩ := hc
  simp [readValue, hskip, hquote, hbracket, hbrace, hminus, ht, hf, hn]

theorem readValue_minus {fuel levels : Nat} {cs r : List Char} (hskip : skipGaps cs = '-' :: r) :
    readValue (fuel + 1) levels cs = readNumber true r := by
  simp [readValue, hskip]

theorem nested_ne_number {levels : Nat} {t : Tree} {n : Number} (h : t ≠ .number n) :
    nested levels t ≠ .number n := by
  unfold nested
  split
  · nofun
  · exact h

/-- A number is read the same way in front of what does not go on with it, at any level of nesting. -/
theorem readValue_number_append {fuel fuel' levels levels' : Nat} {cs r rest : List Char} {n : Number}
    (h : readValue (fuel + 1) levels cs = some (.number n, r)) (hrest : EndsNumeral rest) :
    readValue (fuel' + 1) levels' (cs ++ rest) = some (.number n, r ++ rest) := by
  unfold readValue at h
  split at h
  · cases h
  · obtain ⟨⟨s, r'⟩, -, heq⟩ := Option.bind_eq_some_iff.mp h
    cases s <;> cases heq
  · split at h
    · exact absurd (Prod.mk.inj (Option.some.inj h)).1 (nested_ne_number nofun)
    · obtain ⟨⟨ts, r'⟩, -, heq⟩ := Option.bind_eq_some_iff.mp h
      exact absurd (Prod.mk.inj (Option.some.inj heq)).1 (nested_ne_number nofun)
  · split at h
    · exact absurd (Prod.mk.inj (Option.some.inj h)).1 (nested_ne_number nofun)
    · obtain ⟨⟨ms, r'⟩, -, heq⟩ := Option.bind_eq_some_iff.mp h
      exact absurd (Prod.mk.inj (Option.some.inj heq)).1 (nested_ne_number (by cases ms <;> nofun))
  · rename_i cs' hskip
    rw [readValue_minus (skipGaps_append hskip rest)]
    exact readNumber_append h hrest
  · simp at h
  · simp at h
  · simp at h
  · rename_i hempty hquote hbracket hbrace hminus ht hf hn
    cases hskip : skipGaps cs with
    | nil => exact absurd hskip hempty
    | cons c cs' =>
      rw [readValue_unmarked (skipGaps_append hskip rest), ← List.cons_append, ← hskip]
      · exact readNumber_append h hrest
      · simp only [List.mem_cons, List.not_mem_nil, or_false]
        rintro (rfl | rfl | rfl | rfl | rfl | rfl | rfl)
        · exact hquote cs' hskip
        · exact hbracket cs' hskip
        · exact hbrace cs' hskip
        · exact hminus cs' hskip
        · exact ht cs' hskip
        · exact hf cs' hskip
        · exact hn cs' hskip

/-- A numeral without a sign has no blank and no mark in front. -/
theorem unmarked_of_isDigit {c : Char} (hc : c.isDigit = true) :
    isGap c = false ∧ c ∉ ['"', '[', '{', '-', 't', 'f', 'n'] := by
  refine ⟨?_, ?_⟩
  · simp only [isGap, Bool.or_eq_false_iff, decide_eq_false_iff_not]
    refine ⟨⟨⟨?_, ?_⟩, ?_⟩, ?_⟩ <;> (rintro rfl; cases hc)
  · simp only [List.mem_cons, List.not_mem_nil, or_false]
    rintro (rfl | rfl | rfl | rfl | rfl | rfl | rfl) <;> cases hc

/-- What is read as a numeral begins with a digit. -/
theorem isDigit_of_readNumber {negative : Bool} {cs r : List Char} {t : Tree}
    (h : readNumber negative cs = some (t, r)) : ∃ c cs', cs = c :: cs' ∧ c.isDigit = true := by
  obtain ⟨⟨d, r₁⟩, hnumeral, -⟩ := Option.bind_eq_some_iff.mp h
  obtain ⟨⟨ds, r₂⟩, hwhole, -⟩ := Option.bind_eq_some_iff.mp hnumeral
  unfold readWhole at hwhole
  split at hwhole
  · exact ⟨_, _, rfl, rfl⟩
  · cases cs with
    | nil => cases hwhole
    | cons c cs' =>
      cases hc : c.isDigit with
      | true => exact ⟨c, cs', rfl, hc⟩
      | false =>
        rw [Text.spanDigits, Text.digit?_eq_none hc] at hwhole
        cases hwhole

/-- A numeral with its sign is read as a value. -/
theorem readValue_signed {negative : Bool} {cs : List Char} {t : Tree} (h : readNumber negative cs = some (t, [])) :
    readValue 1 0 (if negative then '-' :: cs else cs) = some (t, []) := by
  cases negative with
  | true => exact (readValue_minus (skipGaps_cons (by decide) _)).trans h
  | false =>
    obtain ⟨c, cs', rfl, hc⟩ := isDigit_of_readNumber h
    obtain ⟨hgap, hmarks⟩ := unmarked_of_isDigit hc
    exact (readValue_unmarked (skipGaps_cons hgap cs') hmarks).trans h

/-- The number that the text of a number is read as. -/
def Number.reread (n : Number) : Number :=
  match readValue 1 0 n.text with
  | some (.number n', _) => n'
  | _ => n

/-- A number whose text is read as some number, up to the end of the text. -/
def Number.Readable (n : Number) : Prop :=
  readValue 1 0 n.text = some (.number n.reread, [])

theorem Number.readable_of_read {n n' : Number} (h : readValue 1 0 n.text = some (.number n', [])) :
    n.Readable ∧ n.reread = n' := by
  have hreread : n.reread = n' := by rw [reread, h]
  exact ⟨by rw [Readable, hreread, h], hreread⟩

theorem Number.Legible.readable {n : Number} (h : n.Legible) : n.Readable :=
  (readable_of_read h).1

theorem Number.Legible.reread {n : Number} (h : n.Legible) : n.reread = n :=
  (readable_of_read h).2

/-- A readable number is read in front of anything that does not go on with it. -/
theorem Number.Readable.readValue {n : Number} (h : n.Readable) (fuel levels : Nat) {rest : List Char}
    (hrest : EndsNumeral rest) : readValue (fuel + 1) levels (n.text ++ rest) = some (.number n.reread, rest) :=
  readValue_number_append h hrest

/-! ## Integers -/

/-- A natural number is read as its digits, without fraction or exponent. -/
theorem readNumber_toDigits (negative : Bool) (n : Nat) : ∃ ds, Text.ofDigits ds = n ∧
    readNumber negative (Nat.toDigits 10 n) = some (numeralTree ⟨negative, ds, none, none⟩, []) := by
  suffices h : ∃ ds, Text.ofDigits ds = n ∧ readWhole (Nat.toDigits 10 n) = some (ds, []) by
    obtain ⟨ds, hds, hwhole⟩ := h
    exact ⟨ds, hds, by simp [readNumber, readNumeral, hwhole, readFraction, readExponent]⟩
  by_cases hn : n = 0
  · subst hn
    exact ⟨[0], rfl, rfl⟩
  · obtain ⟨d, ds, hspan, hvalue, -⟩ := (spells_toDigits n).spanDigits Text.endsDigits_nil
    rw [List.append_nil] at hspan
    refine ⟨d :: ds, hvalue, ?_⟩
    rw [readWhole.eq_2 _ fun cs h => Text.head?_toDigits (Nat.pos_of_ne_zero hn) (by rw [h]; rfl), hspan]

theorem numeralTree_integer {i : Integer} {ds : List Nat} (hds : Text.ofDigits ds = i.val.natAbs) :
    numeralTree ⟨decide (i.val < 0), ds, none, none⟩ = .number (.integer i) := by
  have hfits : Number.ofInt? i.val = some (.integer i) := dif_pos i.inRange
  suffices h : Number.ofDecimal? ⟨decide (i.val < 0), ds, none, none⟩ = some (.integer i) by
    rw [numeralTree, h]
  by_cases hneg : i.val < 0
  · have hvalue : -(i.val.natAbs : Int) = i.val := by omega
    have hne : i.val.natAbs ≠ 0 := by omega
    rw [decide_eq_true hneg, Number.ofDecimal?]
    simp only [hds, if_true, if_neg hne, hvalue, hfits, Option.some_or]
  · have hvalue : (i.val.natAbs : Int) = i.val := by omega
    rw [decide_eq_false hneg, Number.ofDecimal?]
    simp only [hds, Bool.false_eq_true, if_false, hvalue, hfits, Option.some_or]

theorem Number.legible_integer (i : Integer) : (Number.integer i).Legible := by
  obtain ⟨ds, hds, hread⟩ := readNumber_toDigits (decide (i.val < 0)) i.val.natAbs
  rw [numeralTree_integer hds] at hread
  have htext : (Number.integer i).text =
      if decide (i.val < 0) then '-' :: Nat.toDigits 10 i.val.natAbs else Nat.toDigits 10 i.val.natAbs := by
    simp [Number.text, integerText]
  rw [Legible, htext]
  exact readValue_signed hread

end RunWatch.Json
