import Mathlib.Algebra.GroupWithZero.Nat
import RunWatch.Text.Numeral

/-!
# Decimal digits written and read

`Spells cs n` says that some characters are a numeral of a natural number.  What is written in decimal, with or
without zeros in front, spells its number (`spells_toDigits`, `spells_padded`), and what spells a number is read
as that number up to where the digits end (`Spells.spanDigits`).
-/

namespace RunWatch.Text

/-- Characters that do not go on with a digit. -/
def EndsDigits (cs : List Char) : Prop :=
  ∀ c ∈ cs.head?, c.isDigit = false

theorem endsDigits_nil : EndsDigits [] :=
  nofun

theorem endsDigits_cons {c : Char} (hc : c.isDigit = false) (cs : List Char) : EndsDigits (c :: cs) := by
  intro c' hc'
  obtain rfl := Option.some.inj hc'
  exact hc

theorem isDigit_iff (c : Char) : c.isDigit = true ↔ '0' ≤ c ∧ c ≤ '9' := by
  simp only [Char.isDigit, Char.le_def, ge_iff_le, Bool.and_eq_true, decide_eq_true_eq]

theorem digit?_eq_some {c : Char} (hc : c.isDigit = true) : digit? c = some (c.toNat - '0'.toNat) :=
  if_pos ((isDigit_iff c).mp hc)

theorem digit?_eq_none {c : Char} (hc : c.isDigit = false) : digit? c = none :=
  if_neg fun h => by rw [(isDigit_iff c).mpr h] at hc; cases hc

/-- Characters that are the digits of a natural number, the highest first. -/
structure Spells (cs : List Char) (n : Nat) : Prop where
  digits : ∀ c ∈ cs, c.isDigit = true
  nonempty : cs ≠ []
  value : Nat.ofDigitChars 10 cs 0 = n

theorem spells_toDigits (n : Nat) : Spells (Nat.toDigits 10 n) n :=
  ⟨fun _ hc => Nat.isDigit_of_mem_toDigits (by decide) (by decide) hc, Nat.toDigits_ne_nil,
    Nat.ofDigitChars_ten_toDigits⟩

/-- Only zero is written with a zero in front. -/
theorem head?_toDigits {n : Nat} (hn : 0 < n) : (Nat.toDigits 10 n).head? ≠ some '0' := by
  induction n using Nat.strongRecOn with
  | ind n ih =>
    rw [Nat.toDigits_eq_if (by decide)]
    by_cases hlt : n < 10
    · have hdigit : ∀ d : Fin 10, d.val ≠ 0 → Nat.digitChar d.val ≠ '0' := by decide
      rw [if_pos hlt]
      exact fun h => hdigit ⟨n, hlt⟩ (Nat.ne_of_gt hn) (Option.some.inj h)
    · rw [if_neg hlt, List.head?_append, Option.or_of_isSome (by simp [Nat.toDigits_ne_nil])]
      exact ih (n / 10) (by omega) (by omega)

theorem toString_ne_zero {n : Nat} (hn : 0 < n) : toString n ≠ "0" := by
  intro h
  have hdigits : Nat.toDigits 10 n = ['0'] := String.ofList_injective h
  exact head?_toDigits hn (congrArg List.head? hdigits)

theorem spells_padded (width n : Nat) : Spells (padded width n) n := by
  have hdigits := spells_toDigits n
  refine ⟨?_, ?_, ?_⟩
  · intro c hc
    rcases List.mem_append.mp hc with hc | hc
    · rw [List.eq_of_mem_replicate hc]
      decide
    · exact hdigits.digits c hc
  · exact List.append_ne_nil_of_right_ne_nil _ hdigits.nonempty
  · rw [padded, Nat.ofDigitChars_append, Nat.ofDigitChars_replicate_zero, Nat.mul_zero, hdigits.value]

theorem length_padded {width n : Nat} (hwidth : 0 < width) (hn : n < 10 ^ width) :
    (padded width n).length = width := by
  have hlength := (Nat.length_toDigits_le_iff (b := 10) (by decide) hwidth).mpr hn
  rw [padded, List.length_append, List.length_replicate]
  omega

/-- A digit that is read adds its value to the number. -/
theorem ofDigits_map (cs : List Char) :
    ofDigits (cs.map fun c => c.toNat - '0'.toNat) = Nat.ofDigitChars 10 cs 0 := by
  rw [ofDigits, List.foldl_map]
  rfl

theorem spanDigits_append {cs rest : List Char} (hcs : ∀ c ∈ cs, c.isDigit = true) (hrest : EndsDigits rest) :
    spanDigits (cs ++ rest) = (cs.map fun c => c.toNat - '0'.toNat, rest) := by
  induction cs with
  | nil =>
    cases rest with
    | nil => rfl
    | cons c rest =>
      have hc : digit? c = none := digit?_eq_none (hrest c rfl)
      simp [spanDigits, hc]
  | cons c cs ih =>
    have hc := digit?_eq_some (hcs c List.mem_cons_self)
    have ih := ih fun c' hc' => hcs c' (List.mem_cons_of_mem c hc')
    simp only [List.cons_append, spanDigits, hc, ih, List.map_cons]

/-- A numeral begins with a digit. -/
theorem Spells.isDigit_head {cs rest tail : List Char} {n : Nat} {c : Char} (h : Spells cs n)
    (heq : cs ++ rest = c :: tail) : c.isDigit = true := by
  cases cs with
  | nil => exact absurd rfl h.nonempty
  | cons d cs =>
    obtain ⟨rfl, -⟩ := List.cons.inj heq
    exact h.digits d List.mem_cons_self

/-- A numeral is read as its number, up to where its digits end. -/
theorem Spells.spanDigits {cs rest : List Char} {n : Nat} (h : Spells cs n) (hrest : EndsDigits rest) :
    ∃ d ds, spanDigits (cs ++ rest) = (d :: ds, rest) ∧ ofDigits (d :: ds) = n ∧ (d :: ds).length = cs.length := by
  obtain ⟨hdigits, hne, hvalue⟩ := h
  cases cs with
  | nil => exact absurd rfl hne
  | cons c cs =>
    refine ⟨_, _, spanDigits_append hdigits hrest, ?_, ?_⟩
    · rw [← hvalue, ← ofDigits_map]
      rfl
    · simp

end RunWatch.Text
