import RunWatch.Json.Reader
import RunWatch.Json.Writer

/-!
# Strings written and read

A string between quotes is read back as it was, whatever follows it (`readString_quoted`).  Each character
that is written becomes one piece, and of the pieces only control characters come as code units; these are
no surrogates, so that none is joined with its neighbour.
-/

namespace RunWatch.Json

/-- The number of a control character, as it is written in an escape. -/
theorem unit?_control (n : Fin 32) : unit? '0' '0' (hexDigit (n / 16)) (hexDigit (n % 16)) = some n.val := by
  revert n
  decide

/-- A piece that is read as this character by itself. -/
def Piece.StandsFor (c : Char) (p : Piece) : Prop :=
  p = .char c ∨ p = .unit c.toNat ∧ c.toNat < 32

theorem joinPieces_cons {c : Char} {p : Piece} (h : p.StandsFor c) (ps : List Piece) :
    joinPieces (p :: ps) = (joinPieces ps).map (c :: ·) := by
  rw [Option.map_eq_bind]
  rcases h with rfl | ⟨rfl, hlow⟩
  · rw [joinPieces]
    rfl
  · have hhigh : ¬ 0xD800 ≤ c.toNat := by omega
    cases ps with
    | nil => simp [joinPieces, hhigh]
    | cons p' ps =>
      cases p' with
      | char c' =>
        simp only [joinPieces, hhigh, false_and, if_false, Char.ofNat_toNat]
        rfl
      | unit low =>
        rw [joinPieces, if_neg (by omega), if_neg (by omega), Char.ofNat_toNat]
        rfl

/-- A character that needs no escape is read as it stands. -/
theorem readPieces_plain {c : Char} (hquote : c ≠ '"') (hback : c ≠ '\\') (hlow : ¬ c.toNat < 32)
    (cs : List Char) : readPieces (c :: cs) = (readPieces cs).map fun r => (.char c :: r.1, r.2) := by
  rw [Option.map_eq_bind, readPieces.eq_5, if_neg (by simp [hback, hlow])]
  · rfl
  all_goals simp [hquote, hback]

/-- An escape of one letter is read as the character it is for. -/
theorem readPieces_letter {letter c : Char} (hu : letter ≠ 'u') (h : letterEscape? letter = some c)
    (cs : List Char) :
    readPieces ('\\' :: letter :: cs) = (readPieces cs).map fun r => (.char c :: r.1, r.2) := by
  rw [Option.map_eq_bind, readPieces.eq_4, h]
  · rfl
  all_goals simp [hu]

/-- What is written for a character is read as one piece that stands for it. -/
theorem readPieces_escape (c : Char) : ∃ p : Piece, p.StandsFor c ∧
    ∀ cs, readPieces (escape c ++ cs) = (readPieces cs).map fun r => (p :: r.1, r.2) := by
  by_cases hquote : c = '"'
  · exact ⟨.char c, .inl rfl, hquote ▸ readPieces_letter (by decide) (by decide)⟩
  by_cases hback : c = '\\'
  · exact ⟨.char c, .inl rfl, hback ▸ readPieces_letter (by decide) (by decide)⟩
  by_cases hn : c = '\n'
  · exact ⟨.char c, .inl rfl, hn ▸ readPieces_letter (by decide) (by decide)⟩
  by_cases hr : c = '\r'
  · exact ⟨.char c, .inl rfl, hr ▸ readPieces_letter (by decide) (by decide)⟩
  by_cases ht : c = '\t'
  · exact ⟨.char c, .inl rfl, ht ▸ readPieces_letter (by decide) (by decide)⟩
  by_cases hb : c.toNat = 8
  · obtain rfl : c = Char.ofNat 8 := by rw [← hb, Char.ofNat_toNat]
    exact ⟨.char _, .inl rfl, readPieces_letter (by decide) (by decide)⟩
  by_cases hf : c.toNat = 12
  · obtain rfl : c = Char.ofNat 12 := by rw [← hf, Char.ofNat_toNat]
    exact ⟨.char _, .inl rfl, readPieces_letter (by decide) (by decide)⟩
  by_cases hlow : c.toNat < 32
  · refine ⟨.unit c.toNat, .inr ⟨rfl, hlow⟩, fun cs => ?_⟩
    have hunit := unit?_control ⟨c.toNat, hlow⟩
    simp only [escape, hquote, hback, hn, hr, ht, hb, hf, hlow, if_false, if_true]
    rw [Option.map_eq_bind]
    simp only [List.cons_append, List.nil_append, readPieces, hunit]
    rfl
  · refine ⟨.char c, .inl rfl, fun cs => ?_⟩
    simp only [escape, hquote, hback, hn, hr, ht, hb, hf, hlow, if_false]
    exact readPieces_plain hquote hback hlow cs

theorem readString_quoted (cs rest : List Char) :
    readString (cs.flatMap escape ++ '"' :: rest) = some (some (String.ofList cs), rest) := by
  have hpieces : ∃ ps, readPieces (cs.flatMap escape ++ '"' :: rest) = some (ps, rest) ∧
      joinPieces ps = some cs := by
    induction cs with
    | nil => exact ⟨[], by simp [readPieces], by simp [joinPieces]⟩
    | cons c cs ih =>
      obtain ⟨ps, hread, hjoin⟩ := ih
      obtain ⟨p, hp, hstep⟩ := readPieces_escape c
      refine ⟨p :: ps, ?_, ?_⟩
      · rw [List.flatMap_cons, List.append_assoc, hstep, hread, Option.map_some]
      · rw [joinPieces_cons hp, hjoin, Option.map_some]
  obtain ⟨ps, hread, hjoin⟩ := hpieces
  simp [readString, hread, hjoin]

end RunWatch.Json
