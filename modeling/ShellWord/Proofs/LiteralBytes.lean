import ShellWord.Proofs.Decoding
import ShellWord.Proofs.JsonText
import ShellWord.Reading.ByteLiteral

/-!
# Literals of bytes are read back

A literal is written in one of two quotes. Whichever it is, each byte is read back from what is
written for it, and only the last quote ends the literal.
-/

namespace ShellWord.Reading.ByteLiteral

open Literal (escapeByte quoteFor byteChars)

variable {quote c : Char} {b : UInt8} {rest : List Char}

theorem insideFrom_skip (taken rest : List Char) :
    insideFrom quote taken.length (taken ++ rest) = insideFrom quote 0 rest := by
  induction taken with
  | nil => rfl
  | cons _ taken ih => exact ih

/-- An escape that is read as one byte puts it before the rest of the literal. -/
theorem insideFrom_escape (taken : List Char) (hquote : '\\' ≠ quote)
    (h : escape? (taken ++ rest) = some ([b], taken.length)) :
    insideFrom quote 0 ('\\' :: (taken ++ rest)) = (insideFrom quote 0 rest).map (b :: ·) := by
  rw [insideFrom, if_neg hquote, if_pos rfl, h]
  show (do return [b] ++ (← insideFrom quote taken.length (taken ++ rest))) = _
  rw [insideFrom_skip]
  cases insideFrom quote 0 rest <;> rfl

theorem insideFrom_plain (hquote : c ≠ quote) (hslash : c ≠ '\\') (hline : c ≠ '\n')
    (hascii : c.toNat < 0x80) (rest : List Char) :
    insideFrom quote 0 (c :: rest) = (insideFrom quote 0 rest).map (byteOf c :: ·) := by
  rw [insideFrom, if_neg hquote, if_neg hslash, if_neg (by simp [hline, hascii])]
  cases insideFrom quote 0 rest <;> rfl

theorem hexDigit?_ofByte {n : UInt8} (h : n.toNat < 0x10) :
    Json.hexDigit? (Literal.hexDigit n) = some n.toNat := by
  have hsame : Literal.hexDigit n = Journal.hexDigit n.toNat := by
    simp only [Literal.hexDigit, Journal.hexDigit, UInt8.lt_iff_toNat_lt, UInt8.reduceToNat]
  rw [hsame, Json.hexDigit?_hexDigit h]

theorem escape?_hex (b : UInt8) (rest : List Char) :
    escape? ('x' :: Literal.hexDigit (b >>> 4) :: Literal.hexDigit (b &&& 0x0F) :: rest) =
      some ([b], 3) := by
  have hb := b.toNat_lt
  have hhigh : (b >>> 4).toNat = b.toNat / 0x10 := by
    rw [UInt8.toNat_shiftRight, Nat.shiftRight_eq_div_pow]
    rfl
  have hlow : (b &&& 0x0F).toNat = b.toNat % 0x10 := by
    rw [UInt8.toNat_and]
    exact Nat.and_two_pow_sub_one_eq_mod b.toNat 4
  have hjoin : b.toNat / 0x10 * 0x10 + b.toNat % 0x10 = b.toNat := by omega
  rw [escape?, if_neg (by decide), if_pos rfl]
  simp only [hexDigit?_ofByte (n := b >>> 4) (by omega), hexDigit?_ofByte (n := b &&& 0x0F) (by omega)]
  show some ([UInt8.ofNat ((b >>> 4).toNat * 0x10 + (b &&& 0x0F).toNat)], 3) = _
  rw [hhigh, hlow, hjoin, UInt8.ofNat_toNat]

theorem escape?_special {c : Char} (h : c = '\x27' ∨ c = '\x22' ∨ c = '\\') (rest : List Char) :
    escape? (c :: rest) = some ([byteOf c], 1) := by
  rcases h with rfl | rfl | rfl <;> rfl

/-- A byte is read back from what is written for it in either quote, before the rest of the
literal. -/
theorem insideFrom_escapeByte (hquote : quote = '\x27' ∨ quote = '\x22') (b : UInt8)
    (rest : List Char) :
    insideFrom quote 0 (escapeByte quote b ++ rest) = (insideFrom quote 0 rest).map (b :: ·) := by
  have hslash : '\\' ≠ quote := by rcases hquote with rfl | rfl <;> decide
  have hb := b.toNat_lt
  have hchar : (Char.ofNat b.toNat).toNat = b.toNat :=
    toNat_ofNat_of_isValidChar (by omega)
  have hbyte : byteOf (Char.ofNat b.toNat) = b := by rw [byteOf, hchar, UInt8.ofNat_toNat]
  rw [escapeByte]
  split_ifs with hspecial ht hn hr hprint
  · have hread := escape?_special (c := Char.ofNat b.toNat) (by
      rcases hquote with rfl | rfl
      · exact hspecial.imp_right Or.inr
      · exact Or.inr hspecial) rest
    rw [hbyte] at hread
    exact insideFrom_escape [Char.ofNat b.toNat] hslash hread
  · subst ht
    exact insideFrom_escape ['t'] hslash rfl
  · subst hn
    exact insideFrom_escape ['n'] hslash rfl
  · subst hr
    exact insideFrom_escape ['r'] hslash rfl
  · rw [not_or] at hspecial
    rw [UInt8.le_iff_toNat_le, UInt8.lt_iff_toNat_lt] at hprint
    simp only [UInt8.reduceToNat] at hprint
    have hline : Char.ofNat b.toNat ≠ '\n' := by
      intro h
      have hten : b.toNat = 0x0A := by rw [← hchar, h]; rfl
      omega
    have hplain := insideFrom_plain hspecial.1 hspecial.2 hline (by omega) rest
    rwa [hbyte] at hplain
  · exact insideFrom_escape ['x', _, _] hslash (escape?_hex b rest)

theorem ofText?_byteChars (data : Bytes) : ofText? (byteChars data) = some data := by
  have hinside {quote : Char} (hquote : quote = '\x27' ∨ quote = '\x22') :
      insideFrom quote 0 (data.flatMap (escapeByte quote) ++ [quote]) = some data := by
    induction data with
    | nil => simp [insideFrom]
    | cons b data ih =>
      rw [List.flatMap_cons, List.append_assoc, insideFrom_escapeByte hquote, ih]
      rfl
  have hquote (hasSingle hasDouble : Bool) :
      quoteFor hasSingle hasDouble = '\x27' ∨ quoteFor hasSingle hasDouble = '\x22' := by
    rw [quoteFor]
    split
    · exact Or.inr rfl
    · exact Or.inl rfl
  rw [byteChars]
  simp only [List.cons_append, ofText?]
  rw [if_pos (hquote _ _)]
  exact hinside (hquote _ _)

end ShellWord.Reading.ByteLiteral
