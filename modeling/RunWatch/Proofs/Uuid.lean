import Mathlib.Algebra.GroupWithZero.Nat
import RunWatch.Uuid

/-!
# Identifiers written and read

An identifier is read back from its text (`Uuid.ofText?_text`): the hyphens stand where the reader looks for them.  So
no two identifiers have the same text (`Uuid.text_injective`), and there is nothing but digits and hyphens in it
(`Uuid.mem_text`).
-/

namespace RunWatch.Uuid

theorem digit?_digitChar : ∀ d : Fin 16, digit? (digitChar d) = some d := by
  decide

theorem mapM_digit? (ds : List (Fin 16)) : (ds.map digitChar).mapM digit? = some ds := by
  induction ds with
  | nil => rfl
  | cons d ds ih => simp [digit?_digitChar, ih]

theorem hyphenate_cons (n m : Nat) (ns : List Nat) (cs : List Char) :
    hyphenate (n :: m :: ns) cs = cs.take n ++ '-' :: hyphenate (m :: ns) (cs.drop n) := rfl

/-- Between the groups there is one hyphen each. -/
theorem length_hyphenate (n : Nat) (ns : List Nat) (cs : List Char) (h : cs.length = (n :: ns).sum) :
    (hyphenate (n :: ns) cs).length = (n :: ns).sum + ns.length := by
  induction ns generalizing n cs with
  | nil => simp [hyphenate, h]
  | cons m ns ih =>
    rw [List.sum_cons] at h
    have hrest := ih m (cs.drop n) (by rw [List.length_drop, h]; omega)
    rw [hyphenate_cons, List.length_append, List.length_cons, hrest, List.length_take, h]
    simp only [List.sum_cons, List.length_cons]
    omega

theorem unhyphenate_hyphenate (n : Nat) (ns : List Nat) (cs : List Char) (h : cs.length = (n :: ns).sum) :
    unhyphenate (n :: ns) (hyphenate (n :: ns) cs) = some cs := by
  induction ns generalizing n cs with
  | nil =>
    have hn : cs.length = n := by simpa using h
    simp [hyphenate, unhyphenate, ← hn]
  | cons m ns ih =>
    rw [List.sum_cons] at h
    have hrest := ih m (cs.drop n) (by rw [List.length_drop, h]; omega)
    have hlength : (cs.take n).length = n := by rw [List.length_take, h]; omega
    have hdrop : (cs.take n ++ '-' :: hyphenate (m :: ns) (cs.drop n)).drop n =
        '-' :: hyphenate (m :: ns) (cs.drop n) := List.drop_left' hlength
    have htake : (cs.take n ++ '-' :: hyphenate (m :: ns) (cs.drop n)).take n = cs.take n :=
      List.take_left' hlength
    have hstep : unhyphenate (n :: m :: ns) (cs.take n ++ '-' :: hyphenate (m :: ns) (cs.drop n)) =
        (unhyphenate (m :: ns) (hyphenate (m :: ns) (cs.drop n))).map (cs.take n ++ ·) := by
      simp only [unhyphenate, hdrop, htake]
    rw [hyphenate_cons, hstep, hrest, Option.map_some, List.take_append_drop]

theorem ofText?_text (u : Uuid) : ofText? u.text = some u := by
  have hlength : (u.digits.map digitChar).length = (8 :: [4, 4, 4, 12]).sum := by
    rw [List.length_map, u.length_digits]
    rfl
  have hchars : u.chars.length = 36 := length_hyphenate 8 [4, 4, 4, 12] _ hlength
  have hdigits : ofDigitChars? (u.digits.map digitChar) = some u := by
    rw [ofDigitChars?, mapM_digit?, Option.bind_some, dif_pos u.length_digits]
  have hread : ofHyphenated? u.chars = some u := by
    rw [ofHyphenated?, chars, groups, unhyphenate_hyphenate 8 [4, 4, 4, 12] _ hlength]
    exact hdigits
  rw [ofText?, text, String.toList_ofList, ofChars?, if_neg (by omega), if_pos hchars, hread]

theorem text_injective : Function.Injective text := by
  intro u v h
  have hread : some u = some v := by rw [← ofText?_text u, h, ofText?_text]
  exact Option.some.inj hread

theorem mem_hyphenate {ns : List Nat} {cs : List Char} {c : Char} (h : c ∈ hyphenate ns cs) : c = '-' ∨ c ∈ cs := by
  induction ns generalizing cs with
  | nil => exact absurd h List.not_mem_nil
  | cons n ns ih =>
    cases ns with
    | nil => exact .inr (List.mem_of_mem_take h)
    | cons m ns =>
      rw [hyphenate_cons, List.mem_append, List.mem_cons] at h
      rcases h with hfirst | hhyphen | hrest
      · exact .inr (List.mem_of_mem_take hfirst)
      · exact .inl hhyphen
      · exact (ih hrest).imp id List.mem_of_mem_drop

theorem mem_text {u : Uuid} {c : Char} (h : c ∈ u.text.toList) : c = '-' ∨ ∃ d : Fin 16, digitChar d = c := by
  rw [text, String.toList_ofList] at h
  refine (mem_hyphenate h).imp id fun hdigit => ?_
  obtain ⟨d, -, hd⟩ := List.mem_map.mp hdigit
  exact ⟨d, hd⟩

end RunWatch.Uuid
