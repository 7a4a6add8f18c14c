import ShellWord.Proofs.Spelling

/-!
# Reading the escape-quoted form back

Each byte of a word is read back from its escape alone: no escape takes a byte of what is written
behind it, and none of them closes the group.
-/

namespace ShellWord.Reading

variable {k : Constructs}

/-- The letter of a short escape stands for its byte, and begins neither a hexadecimal nor an octal
escape. -/
theorem lookup_mnemonic {b letter : UInt8} (h : EscapeQuoted.mnemonic? b = some letter) :
    letterEscapes.lookup letter = some b ∧ letter ≠ 0x78 ∧ isOctalDigit letter = false := by
  simp only [EscapeQuoted.mnemonic?, ite_eq_iff, Option.some.injEq, reduceCtorEq, and_false,
    or_false] at h
  -- one case for each byte that has a letter
  rcases h with ⟨rfl, rfl⟩ | ⟨_, ⟨rfl, rfl⟩ | ⟨_, ⟨rfl, rfl⟩ | ⟨_, ⟨rfl, rfl⟩ | ⟨_, ⟨rfl, rfl⟩ |
    ⟨_, ⟨rfl, rfl⟩ | ⟨_, ⟨rfl, rfl⟩ | ⟨_, ⟨rfl, rfl⟩ | ⟨_, rfl, rfl⟩⟩⟩⟩⟩⟩⟩⟩
  all_goals decide

theorem byteOfDigits_hexDigits : ∀ b : UInt8, b ≠ 0 →
    isHexDigit (EscapeQuoted.hexDigit (b >>> 4)) = true ∧
    isHexDigit (EscapeQuoted.hexDigit (b &&& 0x0F)) = true ∧
    byteOfDigits? 16 [EscapeQuoted.hexDigit (b >>> 4), EscapeQuoted.hexDigit (b &&& 0x0F)] =
      some b := by
  decide +kernel

/-- The bytes that an escaped text gives a meaning to have short escapes. -/
theorem mnemonic_of_special {b : UInt8} (hb : EscapeQuoted.mnemonic? b = none) :
    b ≠ 0x27 ∧ b ≠ 0x5C := by
  constructor
  · rintro rfl
    simp [EscapeQuoted.mnemonic?] at hb
  · rintro rfl
    simp [EscapeQuoted.mnemonic?] at hb

/-! ## The three ways to write a byte -/

theorem escapedFrom_cons {b : UInt8} (hquote : b ≠ 0x27) (hbackslash : b ≠ 0x5C) (text : Bytes) :
    escapedFrom 0 (b :: text) =
      (escapedFrom 0 text).map fun (data, after) => (b :: data, after) := by
  rw [escapedFrom, if_neg hquote, if_neg hbackslash]
  cases escapedFrom 0 text <;> rfl

/-- A backslash and an escape that takes `n` bytes of what stands behind it. -/
theorem escapedFrom_backslash {b : UInt8} {n : Nat} {text : Bytes}
    (h : escape? text = some (b, n)) :
    escapedFrom 0 (0x5C :: text) =
      (escapedFrom n text).map fun (data, after) => (b :: data, after) := by
  rw [escapedFrom, if_neg (by decide), if_pos rfl, h]
  simp only [Option.bind_eq_bind, Option.bind_some]
  cases escapedFrom n text <;> rfl

theorem escapedFrom_letter {b letter : UInt8} (h : EscapeQuoted.mnemonic? b = some letter)
    (text : Bytes) :
    escapedFrom 0 ([0x5C, letter] ++ text) =
      (escapedFrom 0 text).map fun (data, after) => (b :: data, after) := by
  obtain ⟨hlookup, hx, hoctal⟩ := lookup_mnemonic h
  have hescape : escape? (letter :: text) = some (b, 1) := by
    simp [escape?, hx, hoctal, hlookup]
  exact escapedFrom_backslash hescape

/-- A hexadecimal escape takes its two digits and no more, also before another digit. -/
theorem hexEscape_two {b : UInt8} (hb : b ≠ 0) (text : Bytes) :
    hexEscape? (EscapeQuoted.hexDigit (b >>> 4) :: EscapeQuoted.hexDigit (b &&& 0x0F) :: text) =
      some (b, 2) := by
  obtain ⟨hhigh, hlow, hvalue⟩ := byteOfDigits_hexDigits b hb
  simp [hexEscape?, hhigh, hlow, hvalue]

theorem escapedFrom_hex {b : UInt8} (hb : b ≠ 0) (text : Bytes) :
    escapedFrom 0 ([0x5C, 0x78, EscapeQuoted.hexDigit (b >>> 4),
        EscapeQuoted.hexDigit (b &&& 0x0F)] ++ text) =
      (escapedFrom 0 text).map fun (data, after) => (b :: data, after) := by
  have hescape : escape? (0x78 :: EscapeQuoted.hexDigit (b >>> 4) ::
      EscapeQuoted.hexDigit (b &&& 0x0F) :: text) = some (b, 3) := by
    simp [escape?, hexEscape_two hb]
  exact escapedFrom_backslash hescape

/-! ## The whole group -/

/-- What is written for a byte is read back as that byte, whatever is written behind it. -/
theorem escapedFrom_escape {b : UInt8} (hb : b ≠ 0) (text : Bytes) :
    escapedFrom 0 (EscapeQuoted.escape b ++ text) =
      (escapedFrom 0 text).map fun (data, after) => (b :: data, after) := by
  rw [EscapeQuoted.escape]
  split
  · next letter hletter => exact escapedFrom_letter hletter text
  · next hnone =>
    obtain ⟨hquote, hbackslash⟩ := mnemonic_of_special hnone
    cases ByteClass.of b with
    | control | high | nul => exact escapedFrom_hex hb text
    | bare | literal | quote => exact escapedFrom_cons hquote hbackslash text

theorem escapedFrom_escapes {word : Bytes} (h : 0 ∉ word) (after : Bytes) :
    escapedFrom 0 (word.flatMap EscapeQuoted.escape ++ 0x27 :: after) = some (word, after) := by
  induction word with
  | nil => simp [escapedFrom]
  | cons b rest ih =>
    obtain ⟨hb, hrest⟩ := List.ne_and_not_mem_of_not_mem_cons h
    rw [List.flatMap_cons, List.append_assoc, escapedFrom_escape hb.symm, ih hrest]
    rfl

theorem isPiece_escapeQuoted (hk : k.escapes = true) {word : Bytes} (h : 0 ∉ word) :
    IsPiece k (EscapeQuoted.render word) word := by
  intro after
  have hread := escapedFrom_escapes h after
  simpa [EscapeQuoted.render, EscapeQuoted.opening, EscapeQuoted.closing, piece?, hk] using hread

end ShellWord.Reading
