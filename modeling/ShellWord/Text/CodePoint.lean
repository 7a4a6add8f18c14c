/-!
# Code points

Text that comes from the operating system may hold what no well-formed text holds: lone
surrogates. `Text` is a sequence of code points, surrogates included. The 128 code points
`U+DC80` to `U+DCFF` have a job of their own: they stand for the bytes `0x80` to `0xFF` that are
not part of any well-formed sequence, see `ShellWord.Text.Utf8`.
-/

namespace ShellWord

/-- A number that Unicode assigns to something: `0` to `0x10FFFF`, surrogates included. -/
structure CodePoint where
  val : Nat
  inRange : val < 0x110000 := by decide
  deriving DecidableEq, Repr

/-- Text as a sequence of code points. -/
abbrev Text := List CodePoint

namespace CodePoint

/-- The code point of this number, or the replacement character beyond the last one. -/
def ofNat (n : Nat) : CodePoint :=
  if h : n < 0x110000 then { val := n, inRange := h } else { val := 0xFFFD }

def ofChar (c : Char) : CodePoint := ofNat c.toNat

/-- Code points that are no character: `U+D800` to `U+DFFF`. -/
def isSurrogate (c : CodePoint) : Bool := 0xD800 ≤ c.val && c.val ≤ 0xDFFF

/-- Surrogates that stand for a byte: `U+DC80` to `U+DCFF`. -/
def isEscape (c : CodePoint) : Bool := 0xDC80 ≤ c.val && c.val ≤ 0xDCFF

/-- The code point that stands for a byte at or above `0x80`. -/
def escapeOf (b : UInt8) : CodePoint := ofNat (0xDC00 + b.toNat)

/-- The character of a code point, unless it is a surrogate. -/
def toChar? (c : CodePoint) : Option Char := if c.isSurrogate then none else some (Char.ofNat c.val)

end CodePoint

def Text.ofString (s : String) : Text := s.toList.map CodePoint.ofChar

theorem toNat_ofNat_of_isValidChar {n : Nat} (hn : n.isValidChar) : (Char.ofNat n).toNat = n := by
  rw [Char.ofNat, dif_pos hn]
  rfl

end ShellWord
