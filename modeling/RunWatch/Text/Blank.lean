/-!
# Blank characters

The characters that count as blank when text is trimmed, and the trimming itself.  The class is the
Unicode property `White_Space`: twenty-five characters, the line and paragraph separators and the
ideographic space among them, the zero-width ones not.
-/

namespace RunWatch.Text

/-- Whether a character has the property `White_Space`. -/
def isBlank (c : Char) : Bool :=
  let n := c.toNat
  (9 ≤ n && n ≤ 13) || n = 0x20 || n = 0x85 || n = 0xA0 || n = 0x1680 ||
    (0x2000 ≤ n && n ≤ 0x200A) || n = 0x2028 || n = 0x2029 || n = 0x202F || n = 0x205F || n = 0x3000

/-- The characters without the blank ones in front. -/
def trimLeft (cs : List Char) : List Char :=
  cs.dropWhile isBlank

/-- A list without the elements of a class at its end. -/
def dropRightWhile (p : α → Bool) (xs : List α) : List α :=
  (xs.reverse.dropWhile p).reverse

/-- The characters without those of a class at either end. -/
def trimBoth (p : Char → Bool) (cs : List Char) : List Char :=
  dropRightWhile p (cs.dropWhile p)

/-- The text without blank characters at either end. -/
def trim (s : String) : String :=
  String.ofList (trimBoth isBlank s.toList)

/-- Whether a text has no character that is not blank. -/
def isBlankText (s : String) : Bool :=
  s.toList.all isBlank

end RunWatch.Text
