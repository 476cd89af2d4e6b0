import RunWatch.Text.Normal.CombiningClass
import RunWatch.Text.Normal.Decomposition

/-!
# Composed normal form

One spelling for texts that look the same.  A text is taken apart into letters and marks, the marks behind
each letter are put in the order of their classes, and whatever makes up one character is put together again.
-/

namespace RunWatch.Text

/-! ## Syllables of Hangul -/

namespace Hangul

def firstSyllable : Nat := 0xAC00
def firstLead : Nat := 0x1100
def firstVowel : Nat := 0x1161

/-- The code point before the first trailing consonant. -/
def beforeTrail : Nat := 0x11A7

def leads : Nat := 19
def vowels : Nat := 21

/-- The number of trailing consonants, none of them counted as one. -/
def trails : Nat := 28

/-- The letters of a syllable. -/
def letters? (c : Char) : Option (List Char) :=
  let n := c.toNat - firstSyllable
  if firstSyllable ≤ c.toNat && n < leads * vowels * trails then
    let front := [Char.ofNat (firstLead + n / (vowels * trails)),
      Char.ofNat (firstVowel + n % (vowels * trails) / trails)]
    some (if n % trails = 0 then front else front ++ [Char.ofNat (beforeTrail + n % trails)])
  else none

/-- The syllable of two letters, or of a syllable without and with a trailing consonant. -/
def pair? (a b : Char) : Option Char :=
  let lead := a.toNat - firstLead
  let vowel := b.toNat - firstVowel
  let bare := a.toNat - firstSyllable
  let trail := b.toNat - beforeTrail
  if firstLead ≤ a.toNat && lead < leads && firstVowel ≤ b.toNat && vowel < vowels then
    some (Char.ofNat (firstSyllable + (lead * vowels + vowel) * trails))
  else if firstSyllable ≤ a.toNat && bare < leads * vowels * trails && bare % trails = 0 &&
      beforeTrail < b.toNat && trail < trails then
    some (Char.ofNat (a.toNat + trail))
  else none

end Hangul

/-! ## Taking apart -/

/-- What a character is made of, one step down. -/
def oneStepDown (c : Char) : List Char :=
  match Hangul.letters? c with
  | some letters => letters
  | none => (decompositions.get? c).getD [c]

/-- A text taken apart as far as it goes; no character goes down more than three steps. -/
def takeApart (cs : List Char) : List Char :=
  ((cs.flatMap oneStepDown).flatMap oneStepDown).flatMap oneStepDown

/-! ## The order of marks -/

/-- Puts a mark behind the marks of lower classes that follow it. -/
def placeMark (c : Char) : List Char → List Char
  | [] => [c]
  | d :: rest =>
    if combiningClass d ≠ 0 ∧ combiningClass d < combiningClass c then d :: placeMark c rest
    else c :: d :: rest

/-- A text with the marks in the order of their classes; those of one class keep their order. -/
def orderMarks : List Char → List Char
  | [] => []
  | c :: rest => placeMark c (orderMarks rest)

/-! ## Putting together -/

/-- The pairs of characters that make up one character. -/
def composedPairs : List ((Char × Char) × Char) :=
  decompositions.entries.filterMap fun (whole, parts) =>
    match parts with
    | [a, b] => if neverComposed.has (Char.ofNat whole) then none else some ((a, b), Char.ofNat whole)
    | _ => none

/-- The one character that two characters make up. -/
def together? (a b : Char) : Option Char :=
  match Hangul.pair? a b with
  | some syllable => some syllable
  | none => (composedPairs.find? fun p => p.1 = (a, b)).map Prod.snd

/-- What has been put together so far: a letter and the marks behind it that it could not take up, the last
one first. -/
structure Composing where
  finished : List Char
  letter : Option Char
  marks : List Char

namespace Composing

/-- Everything so far, as it stands. -/
def all (s : Composing) : List Char :=
  s.finished ++ s.letter.toList ++ s.marks.reverse

/-- Whether the letter can be reached from behind the marks by a character of some class. -/
def reaches (s : Composing) (cls : Nat) : Bool :=
  match s.marks with
  | [] => true
  | mark :: _ => combiningClass mark < cls

/-- Takes in the next character. -/
def next (s : Composing) (c : Char) : Composing :=
  let cls := combiningClass c
  match s.letter.bind fun letter => if s.reaches cls then together? letter c else none with
  | some whole => { s with letter := some whole }
  | none =>
    if cls = 0 then ⟨s.all, some c, []⟩
    else { s with marks := c :: s.marks }

end Composing

/-- The characters of a text put together wherever they make up one. -/
def putTogether (cs : List Char) : List Char :=
  (cs.foldl Composing.next ⟨[], none, []⟩).all

/-- The composed normal form of a text. -/
def normal (cs : List Char) : List Char :=
  putTogether (orderMarks (takeApart cs))

end RunWatch.Text
