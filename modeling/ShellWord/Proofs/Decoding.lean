import ShellWord.Command.Arguments
import ShellWord.Source.Basic
import Mathlib.Data.List.TakeWhile
import Mathlib.Tactic.Common

/-!
# Any bytes survive as text

The operating system hands out text that was decoded from bytes which need not be well formed.
`Decodes` says what text that is: a well-formed sequence becomes its character, and a byte that
begins none becomes its escape. The state machine of `decodeEscaping` finds exactly this text, and
encoding the text gives back the bytes, whatever they were.
-/

namespace ShellWord

namespace Utf8

variable {n k : Nat} {b : UInt8} {p : Partial} {data rest : Bytes} {text : Text}

/-! ## Well-formed sequences -/

/-- A number without its last groups of six bits. -/
def above : Nat → Nat → Nat
  | 0, n => n
  | k + 1, n => above k n / 0x40

/-- The last bytes of a sequence, each of which carries six bits of the number. -/
def continuation : Nat → Nat → Bytes
  | 0, _ => []
  | k + 1, n => UInt8.ofNat (0x80 + above k n % 0x40) :: continuation k n

theorem ofNat_eq (h : b.toNat = n) : UInt8.ofNat n = b := by
  rw [← h, UInt8.ofNat_toNat]

theorem encodeScalar_two (h : 0x80 ≤ n) (h' : n < 0x800) (hb : b.toNat = 0xC0 + above 1 n) :
    encodeScalar n = b :: continuation 1 n := by
  rw [encodeScalar, if_neg (by omega), if_pos h', ← ofNat_eq hb]
  rfl

theorem encodeScalar_three (h : 0x800 ≤ n) (h' : n < 0x10000) (hb : b.toNat = 0xE0 + above 2 n) :
    encodeScalar n = b :: continuation 2 n := by
  rw [encodeScalar, if_neg (by omega), if_neg (by omega), if_pos h', ← ofNat_eq hb]
  simp [above, continuation, Nat.div_div_eq_div_mul]

theorem encodeScalar_four (h : 0x10000 ≤ n) (hb : b.toNat = 0xF0 + above 3 n) :
    encodeScalar n = b :: continuation 3 n := by
  rw [encodeScalar, if_neg (by omega), if_neg (by omega), if_neg (by omega), ← ofNat_eq hb]
  simp [above, continuation, Nat.div_div_eq_div_mul]

/-- The sequence of a character is the one that the standard gives it. -/
theorem encodeScalar_toNat (c : Char) : encodeScalar c.toNat = String.utf8EncodeChar c := by
  have hc : c.val.toNat.isValidChar := c.valid
  rw [encodeScalar, String.utf8EncodeChar, Char.toNat]
  simp only [← Nat.lt_succ_iff]
  split_ifs with hone htwo hthree
  · rfl
  · rw [Nat.mod_eq_of_lt (a := c.val.toNat / 64) (by omega)]
    simp only [Nat.add_comm]
  · rw [Nat.mod_eq_of_lt (a := c.val.toNat / 4096) (by omega)]
    simp only [Nat.add_comm]
  · rw [Nat.mod_eq_of_lt (a := c.val.toNat / 262144) (by omega)]
    simp only [Nat.add_comm]

/-! ## Sequences in progress -/

/-- The next byte, and the bytes after it, can spell the number. -/
structure Partial.Fits (p : Partial) (n : Nat) : Prop where
  value : above (p.owed + 1) n = p.value
  low : p.low.toNat ≤ 0x80 + above p.owed n % 0x40
  high : 0x80 + above p.owed n % 0x40 ≤ p.high.toNat

/-- What the bytes so far have begun: a number that they can still spell is a character, and they
are the beginning of its sequence. -/
structure Partial.Begins (p : Partial) : Prop where
  low : 0x80 ≤ p.low.toNat
  high : p.high.toNat < 0xC0
  spells : ∀ n, p.Fits n → n.isValidChar ∧ encodeScalar n = p.seen ++ continuation (p.owed + 1) n

/-- A first byte that stands for no character by itself begins a sequence. -/
theorem begins_of_begin (h : begin b = .inl p) : p.Begins ∧ p.seen = [b] := by
  have hb := b.toNat_lt
  rw [begin] at h
  simp only [UInt8.lt_iff_toNat_lt, ← UInt8.toNat_inj, UInt8.reduceToNat] at h
  split_ifs at h with h80 hC2 hE0 hE0' hED hF0 hF0' hF4 hF4'
  all_goals
    cases h
    refine ⟨⟨by simp, by simp, ?_⟩, rfl⟩
    rintro n ⟨hvalue, hlow, hhigh⟩
    simp only [above, UInt8.reduceToNat] at hvalue hlow hhigh
    refine ⟨by omega, ?_⟩
  · exact encodeScalar_two (by omega) (by omega) (by simp only [above]; omega)
  · exact encodeScalar_three (by omega) (by omega) (by simp only [above]; omega)
  · exact encodeScalar_three (by omega) (by omega) (by simp only [above]; omega)
  · exact encodeScalar_three (by omega) (by omega) (by simp only [above]; omega)
  · exact encodeScalar_four (by omega) (by simp only [above]; omega)
  · exact encodeScalar_four (by omega) (by simp only [above]; omega)
  · exact encodeScalar_four (by omega) (by simp only [above]; omega)

theorem Partial.Begins.next (hp : p.Begins) (hk : p.owed = k + 1) (hlow : p.low ≤ b)
    (hhigh : b ≤ p.high) :
    Partial.Begins ⟨p.seen ++ [b], k, 0x80, 0xBF, p.value * 0x40 + (b.toNat - 0x80)⟩ := by
  have hb : 0x80 ≤ b.toNat ∧ b.toNat < 0xC0 := by
    have := hp.low
    have := hp.high
    rw [UInt8.le_iff_toNat_le] at hlow hhigh
    omega
  refine ⟨by simp, by simp, ?_⟩
  rintro n ⟨hvalue, -, -⟩
  simp only at hvalue
  have hnext : above (k + 1) n % 0x40 = b.toNat - 0x80 := by omega
  have hfits : p.Fits n := by
    rw [UInt8.le_iff_toNat_le] at hlow hhigh
    constructor
    · rw [hk, above]
      omega
    · rw [hk]
      omega
    · rw [hk]
      omega
  obtain ⟨hchar, hsequence⟩ := hp.spells n hfits
  refine ⟨hchar, ?_⟩
  rw [hsequence, hk, continuation, ofNat_eq (b := b) (by omega), List.append_assoc]
  rfl

theorem continue?_of_not_mem (h : ¬ (p.low ≤ b ∧ b ≤ p.high)) : p.continue? b = none := by
  rw [Partial.continue?, if_neg h]

theorem continue?_last (hk : p.owed = 0) (hlow : p.low ≤ b) (hhigh : b ≤ p.high) :
    p.continue? b = some (.inr (.scalar (p.value * 0x40 + (b.toNat - 0x80)) (p.seen ++ [b]))) := by
  rw [Partial.continue?, if_pos ⟨hlow, hhigh⟩, hk]

theorem continue?_next (hk : p.owed = k + 1) (hlow : p.low ≤ b) (hhigh : b ≤ p.high) :
    p.continue? b =
      some (.inl ⟨p.seen ++ [b], k, 0x80, 0xBF, p.value * 0x40 + (b.toNat - 0x80)⟩) := by
  rw [Partial.continue?, if_pos ⟨hlow, hhigh⟩, hk]

theorem Partial.Begins.last (hp : p.Begins) (hk : p.owed = 0) (hlow : p.low ≤ b)
    (hhigh : b ≤ p.high) :
    (p.value * 0x40 + (b.toNat - 0x80)).isValidChar ∧
      encodeScalar (p.value * 0x40 + (b.toNat - 0x80)) = p.seen ++ [b] := by
  have hplow := hp.low
  have hphigh := hp.high
  rw [UInt8.le_iff_toNat_le] at hlow hhigh
  have hfits : p.Fits (p.value * 0x40 + (b.toNat - 0x80)) := by
    constructor
    · simp only [hk, above]
      omega
    · simp only [hk, above]
      omega
    · simp only [hk, above]
      omega
  obtain ⟨hchar, hsequence⟩ := hp.spells _ hfits
  refine ⟨hchar, hsequence.trans ?_⟩
  rw [hk, continuation, continuation, above, ofNat_eq (b := b) (by omega)]

theorem Partial.Begins.byte (hp : p.Begins) (hn : p.Fits n) :
    (UInt8.ofNat (0x80 + above p.owed n % 0x40)).toNat = 0x80 + above p.owed n % 0x40 ∧
      p.low ≤ UInt8.ofNat (0x80 + above p.owed n % 0x40) ∧
      UInt8.ofNat (0x80 + above p.owed n % 0x40) ≤ p.high := by
  have hhigh := hp.high
  obtain ⟨-, hlow, hle⟩ := hn
  have hbyte : (UInt8.ofNat (0x80 + above p.owed n % 0x40)).toNat = 0x80 + above p.owed n % 0x40 :=
    UInt8.toNat_ofNat_of_lt' (show _ < 0x100 by omega)
  rw [UInt8.le_iff_toNat_le, UInt8.le_iff_toNat_le, hbyte]
  exact ⟨rfl, hlow, hle⟩

/-- The bytes that a number still needs complete its sequence, whatever stands behind it. -/
theorem piecesWithin_continuation (hp : p.Begins) (hn : p.Fits n) (rest : Bytes) :
    piecesWithin p (continuation (p.owed + 1) n ++ rest) =
      .scalar n (encodeScalar n) :: pieces rest := by
  induction hk : p.owed generalizing p with
  | zero =>
    obtain ⟨hbyte, hlow, hhigh⟩ := hp.byte hn
    have hsequence := (hp.last hk hlow hhigh).2
    have hvalue := hn.value
    rw [hk] at hbyte hlow hhigh hsequence hvalue
    simp only [above] at hbyte hlow hhigh hsequence hvalue
    have hnumber : p.value * 0x40 + ((UInt8.ofNat (0x80 + n % 0x40)).toNat - 0x80) = n := by omega
    rw [hnumber] at hsequence
    rw [continuation, continuation, above, List.cons_append, List.nil_append, piecesWithin,
      continue?_last hk hlow hhigh, hnumber, hsequence]
  | succ k ih =>
    obtain ⟨hbyte, hlow, hhigh⟩ := hp.byte hn
    have hnext := hp.next hk hlow hhigh
    have hvalue := hn.value
    rw [hk] at hbyte hlow hhigh hnext hvalue
    rw [continuation, List.cons_append, piecesWithin, continue?_next hk hlow hhigh]
    -- the number fits what the byte has left of the sequence
    refine ih hnext ⟨?_, ?_, ?_⟩ rfl
    all_goals simp only [UInt8.reduceToNat]
    · rw [above] at hvalue
      omega
    · omega
    · omega

/-! ## Pieces -/

theorem pieces_nil : pieces [] = [] := by
  rw [pieces]

theorem pieces_of_begin (h : begin b = .inl p) : pieces (b :: rest) = piecesWithin p rest := by
  rw [pieces, h]

/-- A byte that cannot go on with a sequence breaks it off, and is looked at again. -/
theorem piecesWithin_of_not_mem (h : ¬ (p.low ≤ b ∧ b ≤ p.high)) :
    piecesWithin p (b :: rest) = .malformed .invalidContinuation p.seen :: pieces (b :: rest) := by
  rw [piecesWithin, continue?_of_not_mem h, pieces]

theorem begin_two (h : 0x80 ≤ n) (h' : n < 0x800) (hb : b.toNat = 0xC0 + above 1 n) :
    ∃ p, begin b = .inl p ∧ p.owed = 0 ∧ p.Fits n := by
  simp only [above] at hb
  rw [begin]
  simp only [UInt8.lt_iff_toNat_lt, UInt8.reduceToNat]
  rw [if_neg (by omega), if_neg (by omega), if_pos (by omega)]
  refine ⟨_, rfl, rfl, ?_, ?_, ?_⟩
  all_goals simp only [above, UInt8.reduceToNat]
  all_goals omega

theorem begin_three (h : 0x800 ≤ n) (h' : n < 0x10000) (hn : n.isValidChar)
    (hb : b.toNat = 0xE0 + above 2 n) : ∃ p, begin b = .inl p ∧ p.owed = 1 ∧ p.Fits n := by
  simp only [above] at hb
  rw [begin]
  simp only [UInt8.lt_iff_toNat_lt, ← UInt8.toNat_inj, UInt8.reduceToNat]
  rw [if_neg (by omega), if_neg (by omega), if_neg (by omega)]
  -- overlong forms and surrogates are kept out by the bounds on the second byte
  split_ifs
  any_goals omega
  all_goals
    refine ⟨_, rfl, rfl, ?_, ?_, ?_⟩
    all_goals simp only [above, UInt8.reduceToNat]
    all_goals omega

theorem begin_four (h : 0x10000 ≤ n) (hn : n.isValidChar) (hb : b.toNat = 0xF0 + above 3 n) :
    ∃ p, begin b = .inl p ∧ p.owed = 2 ∧ p.Fits n := by
  simp only [above] at hb
  rw [begin]
  simp only [UInt8.lt_iff_toNat_lt, ← UInt8.toNat_inj, UInt8.reduceToNat]
  rw [if_neg (by omega), if_neg (by omega), if_neg (by omega), if_neg (by omega),
    if_neg (by omega), if_neg (by omega)]
  -- and so are numbers beyond the last character
  split_ifs
  any_goals omega
  all_goals
    refine ⟨_, rfl, rfl, ?_, ?_, ?_⟩
    all_goals simp only [above, UInt8.reduceToNat]
    all_goals omega

/-- The sequence of a character that is not one byte begins with a byte that it fits. -/
theorem exists_begin (h : 0x80 ≤ n) (hn : n.isValidChar) :
    ∃ b p, begin b = .inl p ∧ p.Fits n ∧ encodeScalar n = b :: continuation (p.owed + 1) n := by
  have htoNat {m : Nat} (hm : m < 0x100) : (UInt8.ofNat m).toNat = m :=
    UInt8.toNat_ofNat_of_lt' hm
  by_cases htwo : n < 0x800
  · have hb := htoNat (m := 0xC0 + above 1 n) (by simp only [above]; omega)
    obtain ⟨p, hbegin, howed, hfits⟩ := begin_two h htwo hb
    exact ⟨_, p, hbegin, hfits, by rw [howed, encodeScalar_two h htwo hb]⟩
  by_cases hthree : n < 0x10000
  · have hb := htoNat (m := 0xE0 + above 2 n) (by simp only [above]; omega)
    obtain ⟨p, hbegin, howed, hfits⟩ := begin_three (by omega) hthree hn hb
    exact ⟨_, p, hbegin, hfits, by rw [howed, encodeScalar_three (by omega) hthree hb]⟩
  · have hb := htoNat (m := 0xF0 + above 3 n) (by simp only [above]; omega)
    obtain ⟨p, hbegin, howed, hfits⟩ := begin_four (by omega) hn hb
    exact ⟨_, p, hbegin, hfits, by rw [howed, encodeScalar_four (by omega) hb]⟩

theorem pieces_encodeScalar (hn : n.isValidChar) (rest : Bytes) :
    pieces (encodeScalar n ++ rest) = .scalar n (encodeScalar n) :: pieces rest := by
  by_cases h : n < 0x80
  · have hbyte : (UInt8.ofNat n).toNat = n :=
      UInt8.toNat_ofNat_of_lt' (show _ < 0x100 by omega)
    have hlt : UInt8.ofNat n < 0x80 := UInt8.lt_iff_toNat_lt.2 (by simpa [hbyte] using h)
    rw [encodeScalar, if_pos h, List.cons_append, List.nil_append, pieces, begin, if_pos hlt, hbyte]
  · obtain ⟨b, p, hbegin, hfits, hsequence⟩ := exists_begin (by omega) hn
    have hwithin := piecesWithin_continuation (begins_of_begin hbegin).1 hfits rest
    rw [hsequence, List.cons_append, pieces_of_begin hbegin, hwithin, hsequence]

/-- No character has a sequence that the data begins with. -/
def IsStray (data : Bytes) : Prop := ∀ c : Char, ¬ String.utf8EncodeChar c <+: data

theorem not_isStray_of_isPrefix (hn : n.isValidChar) (h : encodeScalar n <+: data) :
    ¬ IsStray data := by
  intro hstray
  refine hstray (Char.ofNat n) ?_
  rw [← encodeScalar_toNat, toNat_ofNat_of_isValidChar hn]
  exact h

/-- A sequence in progress that no character completes is broken off behind bytes which could only
go on with one. -/
theorem piecesWithin_of_isStray (hp : p.Begins) (h : IsStray (p.seen ++ rest)) :
    ∃ fault more tail, rest = more ++ tail ∧ (∀ x ∈ more, 0x80 ≤ x ∧ x < 0xC0) ∧
      piecesWithin p rest = .malformed fault (p.seen ++ more) :: pieces tail := by
  induction rest generalizing p with
  | nil => exact ⟨.unexpectedEnd, [], [], rfl, by simp, by rw [piecesWithin, List.append_nil]; rfl⟩
  | cons b rest ih =>
    by_cases hmem : p.low ≤ b ∧ b ≤ p.high
    · cases hk : p.owed with
      | zero =>
        obtain ⟨hchar, hsequence⟩ := hp.last hk hmem.1 hmem.2
        refine absurd h (not_isStray_of_isPrefix hchar ⟨rest, ?_⟩)
        rw [hsequence, List.append_assoc]
        rfl
      | succ k =>
        have hstray : IsStray ((p.seen ++ [b]) ++ rest) := by simpa using h
        obtain ⟨fault, more, tail, rfl, hmore, hpieces⟩ := ih (hp.next hk hmem.1 hmem.2) hstray
        refine ⟨fault, b :: more, tail, rfl, ?_, ?_⟩
        · have hlow := hp.low
          have hhigh := hp.high
          simp only [UInt8.le_iff_toNat_le] at hmem
          refine List.forall_mem_cons.2 ⟨?_, hmore⟩
          rw [UInt8.le_iff_toNat_le, UInt8.lt_iff_toNat_lt]
          simp only [UInt8.reduceToNat]
          omega
        · rw [piecesWithin, continue?_next hk hmem.1 hmem.2]
          simpa using hpieces
    · exact ⟨.invalidContinuation, [], b :: rest, rfl, by simp, by
        rw [piecesWithin_of_not_mem hmem, List.append_nil]⟩

/-! ## What the text of bytes is -/

/-- The text that bytes are decoded to: a well-formed sequence becomes its character, and a byte
that begins none becomes its escape. -/
inductive Decodes : Bytes → Text → Prop
  | nil : Decodes [] []
  | char (c : Char) {rest : Bytes} {text : Text} : Decodes rest text →
      Decodes (String.utf8EncodeChar c ++ rest) (CodePoint.ofChar c :: text)
  | stray {b : UInt8} {rest : Bytes} {text : Text} : IsStray (b :: rest) → Decodes rest text →
      Decodes (b :: rest) (CodePoint.escapeOf b :: text)

theorem decodeEscaping_char (c : Char) (rest : Bytes) :
    decodeEscaping (String.utf8EncodeChar c ++ rest) =
      CodePoint.ofChar c :: decodeEscaping rest := by
  have hc : c.toNat.isValidChar := c.valid
  rw [← encodeScalar_toNat, decodeEscaping, pieces_encodeScalar hc]
  rfl

theorem decode?_encodeString (s : String) : decode? (encodeString s) = .ok s.toList := by
  have hchars (start : Nat) (chars : List Char) :
      charsOf? start (pieces (chars.flatMap fun c => encodeScalar c.toNat)) = .ok chars := by
    induction chars generalizing start with
    | nil =>
      rw [List.flatMap_nil, pieces_nil]
      rfl
    | cons c chars ih =>
      have hc : c.toNat.isValidChar := c.valid
      rw [List.flatMap_cons, pieces_encodeScalar hc, charsOf?, ih, Char.ofNat_toNat]
      rfl
  exact hchars 0 s.toList

/-- A byte that only goes on with sequences is never the beginning of one. -/
theorem decodeEscaping_continuation {x : UInt8} (h : 0x80 ≤ x ∧ x < 0xC0) (rest : Bytes) :
    decodeEscaping (x :: rest) = CodePoint.escapeOf x :: decodeEscaping rest := by
  have hC2 : x < 0xC2 := UInt8.lt_trans h.2 (by decide)
  rw [decodeEscaping, pieces, begin, if_neg (UInt8.not_lt.2 h.1), if_pos hC2]
  rfl

theorem decodeEscaping_append {more : Bytes} (h : ∀ x ∈ more, 0x80 ≤ x ∧ x < 0xC0) (tail : Bytes) :
    decodeEscaping (more ++ tail) = more.map CodePoint.escapeOf ++ decodeEscaping tail := by
  induction more with
  | nil => rfl
  | cons x more ih =>
    obtain ⟨hx, hmore⟩ := List.forall_mem_cons.1 h
    rw [List.cons_append, decodeEscaping_continuation hx, ih hmore]
    rfl

theorem le_of_isStray (h : IsStray (b :: rest)) : 0x80 ≤ b := by
  by_contra hb
  have hlt : b.toNat < 0x80 := UInt8.lt_iff_toNat_lt.1 (UInt8.not_le.1 hb)
  refine not_isStray_of_isPrefix (n := b.toNat) (by omega) ⟨rest, ?_⟩ h
  rw [encodeScalar, if_pos hlt, UInt8.ofNat_toNat]
  rfl

theorem decodeEscaping_stray (h : IsStray (b :: rest)) :
    decodeEscaping (b :: rest) = CodePoint.escapeOf b :: decodeEscaping rest := by
  cases hbegin : begin b with
  | inl p =>
    obtain ⟨hp, hseen⟩ := begins_of_begin hbegin
    have hstray : IsStray (p.seen ++ rest) := by
      rw [hseen]
      exact h
    obtain ⟨fault, more, tail, rfl, hmore, hpieces⟩ := piecesWithin_of_isStray hp hstray
    -- the bytes that were broken off with it are strays as well
    rw [decodeEscaping_append hmore, decodeEscaping, pieces_of_begin hbegin, hpieces, hseen]
    rfl
  | inr piece =>
    have hb := le_of_isStray h
    have hpiece : piece = .malformed .invalidStart [b] := by
      rw [begin, if_neg (UInt8.not_lt.2 hb)] at hbegin
      split_ifs at hbegin
      · exact (Sum.inr.inj hbegin).symm
      · exact (Sum.inr.inj hbegin).symm
    rw [decodeEscaping, pieces, hbegin, hpiece]
    rfl

/-- The state machine finds the text, and there is no other. -/
theorem decodes_iff : Decodes data text ↔ text = decodeEscaping data := by
  constructor
  · intro h
    induction h with
    | nil => rfl
    | char c _ ih => rw [decodeEscaping_char, ih]
    | stray hstray _ ih => rw [decodeEscaping_stray hstray, ih]
  · rintro rfl
    induction hlength : data.length using Nat.strongRecOn generalizing data with
    | ind m ih =>
      by_cases hstray : IsStray data
      · cases data with
        | nil => exact .nil
        | cons b rest =>
          rw [decodeEscaping_stray hstray]
          exact .stray hstray (ih rest.length (by simp [← hlength]) rfl)
      · obtain ⟨c, rest, rfl⟩ : ∃ c : Char, String.utf8EncodeChar c <+: data := by
          simpa [IsStray] using hstray
        have hpos : 0 < (String.utf8EncodeChar c).length :=
          List.length_pos_iff.2 String.utf8EncodeChar_ne_nil
        rw [List.length_append] at hlength
        rw [decodeEscaping_char]
        exact .char c (ih rest.length (by omega) rfl)

/-! ## The way back -/

/-- The bytes that a code point stands for, if it is a character or an escape. -/
def pointBytes (c : CodePoint) : Bytes :=
  if c.isSurrogate then [unescape c] else encodeScalar c.val

theorem isSurrogate_of_mem_head?_dropWhile (text : Text) :
    ∀ c ∈ (text.dropWhile CodePoint.isSurrogate).head?, c.isSurrogate = false := by
  intro c hc
  have hhead := List.head?_dropWhile_not CodePoint.isSurrogate text
  rwa [Option.mem_def.1 hc] at hhead

/-- A maximal run of surrogates is encoded as one, up to the first that is no escape. -/
theorem encodeFrom_run {run rest : Text} (hrun : ∀ c ∈ run, c.isSurrogate = true)
    (hrest : ∀ c ∈ rest.head?, c.isSurrogate = false) (start : Nat) :
    encodeFrom start (run ++ rest) =
      match run.dropWhile CodePoint.isEscape with
      | bad :: more =>
        .error ⟨start + run.length - (more.length + 1), start + run.length, bad⟩
      | [] => (encodeFrom (start + run.length) rest).map (run.map unescape ++ ·) := by
  obtain ⟨htake, hdrop⟩ : rest.takeWhile CodePoint.isSurrogate = [] ∧
      rest.dropWhile CodePoint.isSurrogate = rest := by
    cases rest with
    | nil => exact ⟨rfl, rfl⟩
    | cons c tail => simp [hrest c rfl]
  cases run with
  | nil =>
    show encodeFrom start rest = (encodeFrom start rest).map ([] ++ ·)
    cases encodeFrom start rest <;> rfl
  | cons c tail =>
    obtain ⟨hc, htail⟩ := List.forall_mem_cons.1 hrun
    rw [List.cons_append, encodeFrom, if_pos hc]
    simp only [List.takeWhile_append_of_pos htail, List.dropWhile_append_of_pos htail, htake, hdrop,
      List.append_nil]
    cases (c :: tail).dropWhile CodePoint.isEscape with
    | nil => cases encodeFrom (start + (c :: tail).length) rest <;> rfl
    | cons bad more => rfl

/-- A code point that is no surrogate, or an escape, is encoded by itself. -/
theorem encodeFrom_cons {c : CodePoint} (h : c.isSurrogate = true → c.isEscape = true)
    (start : Nat) (rest : Text) :
    encodeFrom start (c :: rest) = (encodeFrom (start + 1) rest).map (pointBytes c ++ ·) := by
  by_cases hc : c.isSurrogate = true
  · have hrun : ∀ x ∈ rest.takeWhile CodePoint.isSurrogate, x.isSurrogate = true :=
      fun x hx => List.mem_takeWhile_imp hx
    have hrest := isSurrogate_of_mem_head?_dropWhile rest
    have hwhole := encodeFrom_run (List.forall_mem_cons.2 ⟨hc, hrun⟩) hrest start
    have hafter := encodeFrom_run hrun hrest (start + 1)
    -- an escape before the run changes neither where the run ends nor what stops it
    rw [List.cons_append, List.takeWhile_append_dropWhile, List.dropWhile_cons_of_pos (h hc),
      List.length_cons, ← Nat.add_assoc, Nat.add_right_comm] at hwhole
    rw [List.takeWhile_append_dropWhile] at hafter
    rw [hwhole, hafter, pointBytes, if_pos hc]
    cases (rest.takeWhile CodePoint.isSurrogate).dropWhile CodePoint.isEscape with
    | nil => cases encodeFrom _ (rest.dropWhile CodePoint.isSurrogate) <;> rfl
    | cons bad more => rfl
  · rw [encodeFrom, if_neg hc, pointBytes, if_neg hc]
    cases encodeFrom (start + 1) rest <;> rfl

/-- Where every surrogate is an escape, each code point is encoded by itself. -/
theorem encodeFrom_eq_flatMap (start : Nat) (text : Text)
    (h : ∀ c ∈ text, c.isSurrogate = true → c.isEscape = true) :
    encodeFrom start text = .ok (text.flatMap pointBytes) := by
  induction text generalizing start with
  | nil =>
    rw [encodeFrom]
    rfl
  | cons c rest ih =>
    obtain ⟨hc, hrest⟩ := List.forall_mem_cons.1 h
    rw [encodeFrom_cons hc, ih (start + 1) hrest]
    rfl

/-! ## Characters and escapes -/

theorem ofChar_val (c : Char) : (CodePoint.ofChar c).val = c.toNat := by
  have hc : c.val.toNat.isValidChar := c.valid
  rw [CodePoint.ofChar, CodePoint.ofNat, dif_pos (by rw [Char.toNat]; omega)]

theorem escapeOf_val (b : UInt8) : (CodePoint.escapeOf b).val = 0xDC00 + b.toNat := by
  have hb := b.toNat_lt
  rw [CodePoint.escapeOf, CodePoint.ofNat, dif_pos (by omega)]

theorem isSurrogate_ofChar (c : Char) : (CodePoint.ofChar c).isSurrogate = false := by
  have hc : c.val.toNat.isValidChar := c.valid
  rw [Bool.eq_false_iff]
  simp only [CodePoint.isSurrogate, ofChar_val, Char.toNat, ne_eq, Bool.and_eq_true,
    decide_eq_true_eq]
  omega

theorem isEscape_escapeOf (h : 0x80 ≤ b) : (CodePoint.escapeOf b).isEscape = true := by
  have hb := b.toNat_lt
  have hle : 0x80 ≤ b.toNat := UInt8.le_iff_toNat_le.1 h
  simp only [CodePoint.isEscape, escapeOf_val, Bool.and_eq_true, decide_eq_true_eq]
  omega

theorem isSurrogate_of_isEscape {c : CodePoint} (h : c.isEscape = true) : c.isSurrogate = true := by
  simp only [CodePoint.isEscape, CodePoint.isSurrogate, Bool.and_eq_true, decide_eq_true_eq] at h ⊢
  omega

theorem pointBytes_ofChar (c : Char) : pointBytes (CodePoint.ofChar c) = String.utf8EncodeChar c := by
  rw [pointBytes, isSurrogate_ofChar, if_neg (by simp), ofChar_val, encodeScalar_toNat]

theorem pointBytes_escapeOf (h : 0x80 ≤ b) : pointBytes (CodePoint.escapeOf b) = [b] := by
  rw [pointBytes, if_pos (isSurrogate_of_isEscape (isEscape_escapeOf h)), unescape, escapeOf_val,
    Nat.add_sub_cancel_left, UInt8.ofNat_toNat]

/-- The only surrogates in the text of bytes are escapes, and its code points stand for the
bytes. -/
theorem Decodes.flatMap_pointBytes (h : Decodes data text) :
    (∀ c ∈ text, c.isSurrogate = true → c.isEscape = true) ∧ text.flatMap pointBytes = data := by
  induction h with
  | nil => exact ⟨by simp, rfl⟩
  | char c _ ih =>
    refine ⟨List.forall_mem_cons.2 ⟨fun hc => ?_, ih.1⟩, ?_⟩
    · rw [isSurrogate_ofChar] at hc
      cases hc
    · rw [List.flatMap_cons, pointBytes_ofChar, ih.2]
  | stray hstray _ ih =>
    have hb := le_of_isStray hstray
    refine ⟨List.forall_mem_cons.2 ⟨fun _ => isEscape_escapeOf hb, ih.1⟩, ?_⟩
    rw [List.flatMap_cons, pointBytes_escapeOf hb, ih.2]
    rfl

theorem encode_of_decodes (h : Decodes data text) : encode text = .ok data := by
  obtain ⟨hsurrogates, hbytes⟩ := h.flatMap_pointBytes
  rw [encode, encodeFrom_eq_flatMap 0 text hsurrogates, hbytes]

theorem wordOf_decodeEscaping (word : Bytes) : Command.wordOf (decodeEscaping word) = .ok word := by
  rw [Command.wordOf, encode_of_decodes (decodes_iff.2 rfl)]

theorem mapM_wordOf_decodeEscaping (words : List Bytes) :
    (words.map decodeEscaping).mapM Command.wordOf = .ok words := by
  induction words with
  | nil => rfl
  | cons word rest ih =>
    rw [List.map_cons, List.mapM_cons, wordOf_decodeEscaping, ih]
    rfl

/-- Bytes of any kind are decoded to one text, in which a well-formed sequence is its character and
any other byte is its escape. As a source and as an argument that text stands for the same bytes
again, so different bytes are never quoted as the same word. -/
theorem decoded_bytes_come_back :
    (∀ data text, Decodes data text ↔ text = decodeEscaping data) ∧
    (∀ data, Source.data (.text (decodeEscaping data)) = .ok data) ∧
    (∀ words, Command.Arguments.read (Command.endOfFlags :: words.map decodeEscaping) =
      .ok ⟨none, words⟩) ∧
    Function.Injective fun data => Source.data (.text (decodeEscaping data)) := by
  have hdata : ∀ data, Source.data (.text (decodeEscaping data)) = .ok data := by
    intro data
    rw [Source.data, Source.encodeText, encode_of_decodes (decodes_iff.2 rfl)]
  refine ⟨fun data text => decodes_iff, hdata, fun words => ?_, fun data data' h => ?_⟩
  · rw [Command.Arguments.read, Command.Arguments.readFrom, if_pos rfl,
      mapM_wordOf_decodeEscaping]
    rfl
  · have hsame : (.ok data : Except SourceError Bytes) = .ok data' :=
      (hdata data).symm.trans (h.trans (hdata data'))
    exact Except.ok.inj hsame

-- half of a surrogate pair, encoded as if it were a character, and a sequence that is cut off
example : decodeEscaping [0xC3, 0xA9, 0xED, 0xA0, 0x80, 0xE2, 0x82] =
    CodePoint.ofChar 'é' :: [0xED, 0xA0, 0x80, 0xE2, 0x82].map CodePoint.escapeOf := by decide

end Utf8

end ShellWord
