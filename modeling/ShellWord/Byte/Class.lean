/-!
# Byte classes

Every decision about quoting a word rests on one classification of its bytes. `ByteClass.of`
names the class of a byte; `isBare` and `needsEscape` are the two questions that the quoting
forms ask of a whole word, and `firstNul?` finds the one byte that no shell word can carry.
-/

namespace ShellWord

/-- Raw data: what the operating system passes around, with no claim that it is text. -/
abbrev Bytes := List UInt8

/-- The ASCII bytes of a text. Characters outside ASCII have no place in quoted words, and every
literal that this function is used on is ASCII. -/
def ascii (s : String) : Bytes := s.toList.map fun c => UInt8.ofNat c.toNat

/-- What a byte means to a shell, as far as quoting is concerned. -/
inductive ByteClass
  /-- Safe outside any quotes. -/
  | bare
  /-- Printable, and verbatim inside single quotes. -/
  | literal
  /-- The single quote itself. -/
  | quote
  /-- `0x01` to `0x1F` and `0x7F`: verbatim inside single quotes, but not printable. -/
  | control
  /-- `0x80` and above: never written verbatim. -/
  | high
  /-- The zero byte, which ends a string for the operating system. -/
  | nul
  deriving DecidableEq, Repr

/-- The punctuation that no shell treats specially: `-_./,:@%+=`. -/
def barePunctuation : Bytes := [0x2D, 0x5F, 0x2E, 0x2F, 0x2C, 0x3A, 0x40, 0x25, 0x2B, 0x3D]

/-- ASCII letters and digits. -/
def isAlphanumeric (b : UInt8) : Bool :=
  (0x30 ≤ b && b ≤ 0x39) || (0x41 ≤ b && b ≤ 0x5A) || (0x61 ≤ b && b ≤ 0x7A)

namespace ByteClass

def of (b : UInt8) : ByteClass :=
  if b = 0 then nul
  else if 0x80 ≤ b then high
  else if b < 0x20 || b = 0x7F then control
  else if b = 0x27 then quote
  else if isAlphanumeric b || barePunctuation.contains b then bare
  else literal

theorem of_eq_nul_iff {b : UInt8} : of b = nul ↔ b = 0 := by
  rw [of]
  grind

theorem of_eq_high_iff {b : UInt8} : of b = high ↔ 0x80 ≤ b := by
  rw [of]
  grind

theorem of_eq_control_iff {b : UInt8} : of b = control ↔ b ≠ 0 ∧ (b < 0x20 ∨ b = 0x7F) := by
  rw [of]
  grind

theorem of_eq_quote_iff {b : UInt8} : of b = quote ↔ b = 0x27 := by
  rw [of]
  grind

def name : ByteClass → String
  | bare => "bare"
  | literal => "literal"
  | quote => "quote"
  | control => "control"
  | high => "high"
  | nul => "nul"

/-- The class at an index of the table of all bytes, where negative indices count from its end:
`-1` is the class of `0xFF` and `-256` that of `0x00`. There is none outside the table. -/
def atIndex? (i : Int) : Option ByteClass :=
  if 0 ≤ i ∧ i < 256 then some (of (UInt8.ofNat i.toNat))
  else if -256 ≤ i ∧ i < 0 then some (of (UInt8.ofNat (i + 256).toNat))
  else none

end ByteClass

/-- A word that may stand unquoted: it has at least one byte, and all of them are bare. -/
def isBare (word : Bytes) : Bool :=
  !word.isEmpty && word.all fun b => ByteClass.of b = .bare

/-- A word with a byte that is not printable ASCII. The zero byte does not count: no form of
quoting can express it. -/
def needsEscape (word : Bytes) : Bool :=
  word.any fun b => ByteClass.of b = .control || ByteClass.of b = .high

theorem isBare_iff {word : Bytes} :
    isBare word = true ↔ word ≠ [] ∧ ∀ b ∈ word, ByteClass.of b = .bare := by
  simp [isBare]

theorem needsEscape_eq_false_iff {word : Bytes} :
    needsEscape word = false ↔
      ∀ b ∈ word, ByteClass.of b ≠ .control ∧ ByteClass.of b ≠ .high := by
  simp [needsEscape]

def firstNul? (word : Bytes) : Option Nat := word.findIdx? (· = 0)

/-- A word holds a zero byte, at this offset first. -/
structure NulByte where
  offset : Nat
  deriving DecidableEq, Repr

def NulByte.message (e : NulByte) : String :=
  s!"NUL byte at offset {e.offset} cannot be passed to a shell"

/-- Accepts the words that a shell can be given. -/
def checkNoNul (word : Bytes) : Except NulByte Unit :=
  match firstNul? word with
  | some offset => .error ⟨offset⟩
  | none => .ok ()

end ShellWord
