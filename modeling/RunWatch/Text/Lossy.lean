/-!
# Text from any bytes

Bytes that are meant to be UTF-8 but need not be: each longest start of a character that breaks off, and
each byte that starts nothing, is read as one replacement character.
-/

namespace RunWatch.Text

/-- What stands for bytes that are no text. -/
def replacement : Char := '\uFFFD'

/-- How a character continues after its first byte: how many bytes follow, the bounds of the first of them,
and the bits that the first byte contributes. -/
structure Opening where
  following : Nat
  low : Nat
  high : Nat
  bits : Nat

/-- What a first byte announces. -/
def opening? (b : Nat) : Option Opening :=
  if b < 0x80 then some ⟨0, 0x80, 0xBF, b⟩
  else if 0xC2 ≤ b && b ≤ 0xDF then some ⟨1, 0x80, 0xBF, b - 0xC0⟩
  else if b = 0xE0 then some ⟨2, 0xA0, 0xBF, 0⟩
  else if b = 0xED then some ⟨2, 0x80, 0x9F, 0xD⟩
  else if 0xE1 ≤ b && b ≤ 0xEF then some ⟨2, 0x80, 0xBF, b - 0xE0⟩
  else if b = 0xF0 then some ⟨3, 0x90, 0xBF, 0⟩
  else if 0xF1 ≤ b && b ≤ 0xF3 then some ⟨3, 0x80, 0xBF, b - 0xF0⟩
  else if b = 0xF4 then some ⟨3, 0x80, 0x8F, 4⟩
  else none

/-- The rest of a character: its value if it is whole, and the bytes behind what was used. -/
def continue? (following low high value : Nat) : List UInt8 → Option Nat × List UInt8
  | [] => (if following = 0 then some value else none, [])
  | b :: rest =>
    match following with
    | 0 => (some value, b :: rest)
    | n + 1 =>
      if low ≤ b.toNat && b.toNat ≤ high then continue? n 0x80 0xBF (value * 64 + b.toNat % 64) rest
      else (none, b :: rest)

theorem continue?_length_le (following low high value : Nat) (bs : List UInt8) :
    (continue? following low high value bs).2.length ≤ bs.length := by
  induction bs generalizing following low high value with
  | nil => simp [continue?]
  | cons b rest ih =>
    cases following with
    | zero => simp [continue?]
    | succ n =>
      simp only [continue?]
      split
      · exact Nat.le_succ_of_le (ih ..)
      · simp

/-- The characters that bytes stand for. -/
def lossyChars : List UInt8 → List Char
  | [] => []
  | b :: rest =>
    match opening? b.toNat with
    | none => replacement :: lossyChars rest
    | some o =>
      let character := match (continue? o.following o.low o.high o.bits rest).1 with
        | some value => Char.ofNat value
        | none => replacement
      character :: lossyChars (continue? o.following o.low o.high o.bits rest).2
termination_by bs => bs.length
decreasing_by
  · simp
  · have := continue?_length_le o.following o.low o.high o.bits rest
    simp only [List.length_cons]
    omega

/-- The text that bytes stand for. -/
def lossy (bytes : ByteArray) : String :=
  String.ofList (lossyChars bytes.toList)

end RunWatch.Text
