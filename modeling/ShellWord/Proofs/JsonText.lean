import ShellWord.Journal.Line
import ShellWord.Reading.Json
import Mathlib.Tactic.Common

/-!
# Objects that are written are read back

A reader of JSON that knows nothing of the writer reads an object that was written as the same
members in the same order. Each layer is read back whatever text stands behind it: the digits of an
escape, one character, a string, a number, a member and at last the members one after another.
-/

namespace ShellWord

open Journal

namespace Reading.Json

variable {n : Nat} {c d : Char} {rest : List Char}

/-! ## Escapes -/

theorem hexDigit?_hexDigit (h : n < 0x10) : hexDigit? (hexDigit n) = some n := by
  have hall : ∀ n < 0x10, hexDigit? (hexDigit n) = some n := by decide
  exact hall n h

/-- The digits of the escape of a unit. -/
def unitDigits (n : Nat) : List Char :=
  [hexDigit (n / 0x1000 % 16), hexDigit (n / 0x100 % 16), hexDigit (n / 0x10 % 16),
    hexDigit (n % 16)]

theorem unit?_unitDigits (h : n < 0x10000) (rest : List Char) :
    unit? (unitDigits n ++ rest) = some n := by
  have hdigit (m : Nat) : hexDigit? (hexDigit (m % 16)) = some (m % 16) :=
    hexDigit?_hexDigit (Nat.mod_lt m (by decide))
  simp only [unitDigits, List.cons_append, List.nil_append, unit?, hdigit]
  refine congrArg some ?_
  show n / 0x1000 % 16 * 0x1000 + n / 0x100 % 16 * 0x100 + n / 0x10 % 16 * 0x10 + n % 16 = n
  omega

theorem stringFrom_skip (taken rest : List Char) :
    stringFrom taken.length (taken ++ rest) = stringFrom 0 rest := by
  induction taken with
  | nil => rfl
  | cons _ taken ih => exact ih

/-- An escape that is read as a character puts it before the rest of the string. -/
theorem stringFrom_escape (taken : List Char)
    (h : escape? (taken ++ rest) = some (d, taken.length)) :
    stringFrom 0 ('\\' :: (taken ++ rest)) =
      (stringFrom 0 rest).map fun r => (d :: r.1, r.2) := by
  rw [stringFrom, if_neg (by decide), if_neg (by decide), if_pos rfl, h]
  show (do let r ← stringFrom taken.length (taken ++ rest); pure (d :: r.1, r.2)) = _
  rw [stringFrom_skip]
  cases stringFrom 0 rest <;> rfl

theorem stringFrom_plain (hquote : c ≠ '\x22') (hslash : c ≠ '\\') (hplain : 0x20 ≤ c.toNat)
    (rest : List Char) :
    stringFrom 0 (c :: rest) = (stringFrom 0 rest).map fun r => (c :: r.1, r.2) := by
  rw [stringFrom, if_neg hquote, if_neg (by omega), if_neg hslash]
  cases stringFrom 0 rest <;> rfl

theorem escape?_unit (hn : n < 0x10000) (hpair : n < 0xD800 ∨ 0xE000 ≤ n) (rest : List Char) :
    escape? ('u' :: unitDigits n ++ rest) = some (Char.ofNat n, 5) := by
  have hfirst : ¬ (0xD800 ≤ n ∧ n < 0xDC00) := by omega
  have hsecond : ¬ (0xDC00 ≤ n ∧ n < 0xE000) := by omega
  have hunit : unitEscape? (unitDigits n ++ rest) = some (Char.ofNat n, 4) := by
    rw [unitEscape?, unit?_unitDigits hn]
    show (if 0xD800 ≤ n ∧ n < 0xDC00 then _ else _) = _
    rw [if_neg hfirst, if_neg hsecond]
    rfl
  simp [escape?, hunit]

/-- Two halves of a pair are one character. -/
theorem escape?_pair (first second : Nat) (hfirst : 0xD800 ≤ first ∧ first < 0xDC00)
    (hsecond : 0xDC00 ≤ second ∧ second < 0xE000) (rest : List Char) :
    escape? ('u' :: unitDigits first ++ unitEscape second ++ rest) =
      some (Char.ofNat (0x10000 + (first - 0xD800) * 0x400 + (second - 0xDC00)), 11) := by
  have hunit : unitEscape? (unitDigits first ++ (unitEscape second ++ rest)) =
      some (Char.ofNat (0x10000 + (first - 0xD800) * 0x400 + (second - 0xDC00)), 10) := by
    have hdrop : (unitDigits first ++ (unitEscape second ++ rest)).drop 4 =
        '\\' :: 'u' :: (unitDigits second ++ rest) := rfl
    rw [unitEscape?, unit?_unitDigits (by omega), hdrop]
    show (if 0xD800 ≤ first ∧ first < 0xDC00 then _ else _) = _
    rw [if_pos hfirst]
    show (do let second ← unit? (unitDigits second ++ rest); _) = _
    rw [unit?_unitDigits (by omega)]
    exact if_pos hsecond
  simp [escape?, hunit]

/-! ## Strings -/

theorem stringFrom_short {letter : Char} (h : ∀ rest, escape? (letter :: rest) = some (d, 1))
    (rest : List Char) :
    stringFrom 0 ('\\' :: letter :: rest) =
      (stringFrom 0 rest).map fun r => (d :: r.1, r.2) :=
  stringFrom_escape [letter] (h rest)

/-- A character is read back from what is written for it, before the rest of the string. -/
theorem stringFrom_escapeChar (c : Char) (rest : List Char) :
    stringFrom 0 (escapeChar c ++ rest) = (stringFrom 0 rest).map fun r => (c :: r.1, r.2) := by
  have hvalid : c.toNat < 0xD800 ∨ 0xDFFF < c.toNat ∧ c.toNat < 0x110000 := c.valid
  have hself : Char.ofNat c.toNat = c := Char.ofNat_toNat c
  rw [escapeChar]
  split_ifs with hspecial hn hr ht hb hf hprint hbasic
  · exact stringFrom_short (fun rest => by rcases hspecial with rfl | rfl <;> rfl) rest
  · subst hn
    exact stringFrom_short (fun _ => rfl) rest
  · subst hr
    exact stringFrom_short (fun _ => rfl) rest
  · subst ht
    exact stringFrom_short (fun _ => rfl) rest
  · rw [hb] at hself
    subst hself
    exact stringFrom_short (fun _ => rfl) rest
  · rw [hf] at hself
    subst hself
    exact stringFrom_short (fun _ => rfl) rest
  · rw [not_or] at hspecial
    exact stringFrom_plain hspecial.1 hspecial.2 hprint.1 rest
  · have h := escape?_unit hbasic (by omega) rest
    rw [hself] at h
    exact stringFrom_escape ('u' :: unitDigits c.toNat) h
  · have h := escape?_pair (0xD800 + (c.toNat - 0x10000) / 0x400)
      (0xDC00 + (c.toNat - 0x10000) % 0x400) (by omega) (by omega) rest
    have hjoin : 0x10000 + (0xD800 + (c.toNat - 0x10000) / 0x400 - 0xD800) * 0x400 +
        (0xDC00 + (c.toNat - 0x10000) % 0x400 - 0xDC00) = c.toNat := by omega
    rw [hjoin, hself] at h
    exact stringFrom_escape _ h

theorem stringFrom_flatMap (s rest : List Char) :
    stringFrom 0 (s.flatMap escapeChar ++ '\x22' :: rest) = some (s, rest) := by
  induction s with
  | nil => rfl
  | cons c s ih =>
    rw [List.flatMap_cons, List.append_assoc, stringFrom_escapeChar, ih]
    rfl

/-! ## Numbers -/

/-- Text that cannot belong to the number before it. -/
def EndsNumber (rest : List Char) : Prop :=
  ∀ c ∈ rest.head?, c.isDigit = false ∧ c ≠ '.' ∧ c ≠ 'e' ∧ c ≠ 'E'

theorem digits?_toDigits (n : Nat) (h : EndsNumber rest) :
    digits? (Nat.toDigits 10 n ++ rest) = some (Nat.toDigits 10 n, rest) := by
  have hall : ∀ c ∈ Nat.toDigits 10 n, c.isDigit = true := fun c hc =>
    Nat.isDigit_of_mem_toDigits (by decide) (by decide) hc
  have hnone : rest.takeWhile Char.isDigit = [] ∧ rest.dropWhile Char.isDigit = rest := by
    cases rest with
    | nil => exact ⟨rfl, rfl⟩
    | cons c rest =>
      have hc : ¬ c.isDigit = true := by simp [(h c rfl).1]
      exact ⟨List.takeWhile_cons_of_neg hc, List.dropWhile_cons_of_neg hc⟩
  have hne : (Nat.toDigits 10 n).isEmpty = false := by simp [Nat.toDigits_ne_nil]
  simp only [digits?, List.takeWhile_append_of_pos hall, List.dropWhile_append_of_pos hall,
    hnone.1, hnone.2, List.append_nil, hne]
  rfl

theorem digitsValue_toDigits (n : Nat) : digitsValue (Nat.toDigits 10 n) = n := by
  have hvalue (digits : List Char) : digitsValue digits = Nat.ofDigitChars 10 digits 0 := by
    simp only [digitsValue, Nat.ofDigitChars, Nat.mul_comm 10]
    rfl
  rw [hvalue, Nat.ofDigitChars_ten_toDigits]

/-- Only zero is written with a zero in front. -/
theorem head?_toDigits_ne (h : 0 < n) : (Nat.toDigits 10 n).head? ≠ some '0' := by
  induction n using Nat.strongRecOn with
  | ind n ih =>
    by_cases hsmall : n < 10
    · have hdigit : ∀ n < 10, 0 < n → n.digitChar ≠ '0' := by decide
      rw [Nat.toDigits_of_lt_base hsmall]
      intro hzero
      exact hdigit n hsmall h (Option.some.inj hzero)
    · have hfront := ih (n / 10) (by omega) (by omega)
      rw [Nat.toDigits_of_base_le (by decide) (by omega), List.head?_append]
      cases hhead : (Nat.toDigits 10 (n / 10)).head? with
      | none => exact absurd (List.head?_eq_none_iff.1 hhead) Nat.toDigits_ne_nil
      | some c => rwa [hhead] at hfront

theorem noZeroInFront (n : Nat) :
    ¬ ((Nat.toDigits 10 n).head? = some '0' ∧ (Nat.toDigits 10 n).length ≠ 1) := by
  rintro ⟨hhead, hlength⟩
  rcases Nat.eq_zero_or_pos n with rfl | hpos
  · exact hlength rfl
  · exact head?_toDigits_ne hpos hhead

theorem fraction?_none (h : EndsNumber rest) : fraction? rest = some ([], rest) := by
  cases rest with
  | nil => rfl
  | cons c rest =>
    have hpoint : c ≠ '.' := (h c rfl).2.1
    rw [fraction?]
    rintro _ ⟨⟩
    exact hpoint rfl

theorem exponent?_none (h : EndsNumber rest) : exponent? rest = some (0, rest) := by
  cases rest with
  | nil => rfl
  | cons c rest =>
    have hletter : ¬ (c = 'e' ∨ c = 'E') := not_or.2 (h c rfl).2.2
    rw [exponent?, if_neg hletter]

theorem toList_toString_int (k : Int) :
    (toString k).toList =
      (if k < 0 then ['-'] else []) ++ Nat.toDigits 10 k.natAbs := by
  rw [Int.toString_eq_repr, Int.repr_eq_if]
  by_cases hk : k < 0
  · rw [if_neg (by omega), if_pos hk, String.toList_append, Nat.toList_repr]
    have habs : (-k).toNat = k.natAbs := by omega
    rw [habs]
    rfl
  · rw [if_pos (by omega), if_neg hk, Nat.toList_repr]
    have habs : k.toNat = k.natAbs := by omega
    rw [habs]
    rfl

theorem toList_toString_int_cons (k : Int) :
    ∃ c digits, (toString k).toList = c :: digits ∧ (c = '-' ∨ c.isDigit = true) := by
  rw [toList_toString_int]
  by_cases hk : k < 0
  · exact ⟨'-', _, by rw [if_pos hk]; rfl, Or.inl rfl⟩
  · rw [if_neg hk, List.nil_append]
    cases hdigits : Nat.toDigits 10 k.natAbs with
    | nil => exact absurd hdigits Nat.toDigits_ne_nil
    | cons c digits =>
      have hc : c ∈ Nat.toDigits 10 k.natAbs := by simp [hdigits]
      exact ⟨c, digits, rfl, Or.inr (Nat.isDigit_of_mem_toDigits (by decide) (by decide) hc)⟩

theorem number?_toString (k : Int) (h : EndsNumber rest) :
    number? ((toString k).toList ++ rest) = some (number k 0, rest) := by
  obtain ⟨first, digits, hcons, -⟩ := toList_toString_int_cons k
  rw [toList_toString_int] at hcons ⊢
  by_cases hk : k < 0
  · have hsigned : signed true k.natAbs = k := by
      show -(k.natAbs : Int) = k
      omega
    simp [number?, hk, digits?_toDigits _ h, noZeroInFront, fraction?_none h, exponent?_none h,
      digitsValue_toDigits, hsigned]
  · have hsigned : signed false k.natAbs = k := by
      show (k.natAbs : Int) = k
      omega
    rw [if_neg hk, List.nil_append] at hcons ⊢
    have hminus : first ≠ '-' := by
      rintro rfl
      have hmem : '-' ∈ Nat.toDigits 10 k.natAbs := by simp [hcons]
      exact absurd (Nat.isDigit_of_mem_toDigits (by decide) (by decide) hmem) (by decide)
    have hread := digits?_toDigits k.natAbs h
    have hvalue := digitsValue_toDigits k.natAbs
    have hzero := noZeroInFront k.natAbs
    rw [hcons] at hread hvalue hzero ⊢
    rw [List.cons_append] at hread
    simpa [number?, hminus, hread, fraction?_none h, exponent?_none h, hvalue, hsigned] using hzero

theorem plain?_toString (k : Int) (h : EndsNumber rest) :
    plain? ((toString k).toList ++ rest) = some (number k 0, rest) := by
  obtain ⟨first, digits, hcons, hfirst⟩ := toList_toString_int_cons k
  have hletter : first ≠ 'n' ∧ first ≠ 't' ∧ first ≠ 'f' := by
    refine ⟨?_, ?_, ?_⟩ <;>
      rintro rfl <;>
      exact absurd hfirst (by decide)
  have hnoWord : words.find? (fun w => w.1.toList.isPrefixOf ((toString k).toList ++ rest)) =
      none := by
    rw [hcons]
    simp [words, List.isPrefixOf, hletter.1.symm, hletter.2.1.symm, hletter.2.2.symm]
  rw [plain?, hnoWord]
  exact number?_toString k h

/-! ## Values -/

/-- The value that a field is read as. -/
def ofItem : Item → Json
  | .text s => string s.toList
  | .number k => number k 0

theorem value?_item (fuel : Nat) (item : Item) (h : EndsNumber rest) :
    value? (fuel + 1) (item.chars ++ rest) = some (ofItem item, rest) := by
  cases item with
  | text s =>
    show value? (fuel + 1) ('\x22' :: (s.toList.flatMap escapeChar ++ ['\x22'] ++ rest)) = _
    rw [value?, if_pos rfl, List.append_assoc]
    show (stringFrom 0 (s.toList.flatMap escapeChar ++ '\x22' :: rest)).map _ = _
    rw [stringFrom_flatMap]
    rfl
  | number k =>
    obtain ⟨first, digits, hcons, hfirst⟩ := toList_toString_int_cons k
    have hother : first ≠ '\x22' ∧ first ≠ '[' ∧ first ≠ '\x7b' := by
      refine ⟨?_, ?_, ?_⟩ <;>
        rintro rfl <;>
        exact absurd hfirst (by decide)
    have hplain := plain?_toString k h
    show value? (fuel + 1) ((toString k).toList ++ rest) = _
    rw [hcons] at hplain ⊢
    rw [List.cons_append] at hplain ⊢
    rw [value?, if_neg hother.1, if_neg hother.2.1, if_neg hother.2.2, hplain]
    rfl

/-- The member that a field is read as. -/
def ofField (field : String × Item) : List Char × Json := (field.1.toList, ofItem field.2)

theorem endsNumber_comma (rest : List Char) : EndsNumber (',' :: rest) := by
  rintro c ⟨⟩
  decide

theorem endsNumber_brace (rest : List Char) : EndsNumber ('\x7d' :: rest) := by
  rintro c ⟨⟩
  decide

theorem skipBlanks_space (rest : List Char) : skipBlanks (' ' :: rest) = skipBlanks rest := rfl

theorem skipBlanks_colon (rest : List Char) : skipBlanks (':' :: rest) = ':' :: rest := rfl

theorem skipBlanks_item (item : Item) (rest : List Char) :
    skipBlanks (item.chars ++ rest) = item.chars ++ rest := by
  cases item with
  | text s => rfl
  | number k =>
    obtain ⟨first, digits, hcons, hfirst⟩ := toList_toString_int_cons k
    have hblank : ¬ (first = ' ' || first = '\t' || first = '\n' || first = '\r') = true := by
      simp only [Bool.or_eq_true, decide_eq_true_eq]
      rintro (((rfl | rfl) | rfl) | rfl) <;> exact absurd hfirst (by decide)
    show skipBlanks ((toString k).toList ++ rest) = (toString k).toList ++ rest
    rw [hcons]
    exact List.dropWhile_cons_of_neg hblank

theorem skipBlanks_fields (field : String × Item) (fields : List (String × Item))
    (rest : List Char) :
    skipBlanks (List.intercalate [',', ' '] ((field :: fields).map fieldChars) ++ rest) =
      List.intercalate [',', ' '] ((field :: fields).map fieldChars) ++ rest := by
  cases fields <;> rfl

theorem fieldChars_append (field : String × Item) (rest : List Char) :
    fieldChars field ++ rest = '\x22' :: (field.1.toList.flatMap escapeChar ++
      '\x22' :: ':' :: ' ' :: (field.2.chars ++ rest)) := by
  simp [fieldChars, quoteChars]

theorem value?_behind_colon (fuel : Nat) (field : String × Item) (h : EndsNumber rest) :
    value? (fuel + 1) (skipBlanks (' ' :: (field.2.chars ++ rest))) =
      some (ofItem field.2, rest) := by
  rw [skipBlanks_space, skipBlanks_item, value?_item fuel field.2 h]

theorem members?_last (fuel : Nat) (field : String × Item) (after : List Char) :
    members? (fuel + 2) (fieldChars field ++ '\x7d' :: after) = some ([ofField field], after) := by
  have hvalue := value?_behind_colon fuel field (endsNumber_brace after)
  rw [fieldChars_append, members?, if_neg (not_not_intro rfl), stringFrom_flatMap]
  simp only [Option.bind_eq_bind, Option.bind_some, skipBlanks_colon, hvalue]
  rfl

/-- Any other member is read up to the comma behind it, and the rest as further members. -/
theorem members?_comma (fuel : Nat) (field : String × Item) (more : List Char) :
    members? (fuel + 2) (fieldChars field ++ ',' :: more) =
      (members? (fuel + 1) (skipBlanks more)).map fun r => (ofField field :: r.1, r.2) := by
  have hvalue := value?_behind_colon fuel field (endsNumber_comma more)
  have hcomma : skipBlanks (',' :: more) = ',' :: more := rfl
  rw [fieldChars_append, members?, if_neg (not_not_intro rfl), stringFrom_flatMap]
  simp only [Option.bind_eq_bind, Option.bind_some, skipBlanks_colon, hvalue, hcomma]
  cases members? (fuel + 1) (skipBlanks more) <;> rfl

/-- The members are read back one after another, up to the closing brace. -/
theorem members?_fields {fields : List (String × Item)} (hne : fields ≠ []) (after : List Char)
    {fuel : Nat} (hfuel : fields.length < fuel) :
    members? fuel (List.intercalate [',', ' '] (fields.map fieldChars) ++ '\x7d' :: after) =
      some (fields.map ofField, after) := by
  induction fields generalizing fuel with
  | nil => exact absurd rfl hne
  | cons field fields ih =>
    rw [List.length_cons] at hfuel
    obtain ⟨fuel, rfl⟩ : ∃ less, fuel = less + 2 := ⟨fuel - 2, by omega⟩
    cases fields with
    | nil =>
      rw [List.map_singleton, List.intercalate_singleton]
      exact members?_last fuel field after
    | cons next fields =>
      have hrest := @ih (List.cons_ne_nil next fields) (fuel + 1) (by omega)
      have hblank := skipBlanks_fields next fields ('\x7d' :: after)
      have hchars : List.intercalate [',', ' '] ((field :: next :: fields).map fieldChars) ++
            '\x7d' :: after =
          fieldChars field ++ ',' :: ' ' ::
            (List.intercalate [',', ' '] ((next :: fields).map fieldChars) ++ '\x7d' :: after) := by
        simp only [List.map_cons, List.intercalate_cons_cons, List.append_assoc, List.cons_append,
          List.nil_append]
      rw [hchars, members?_comma, skipBlanks_space, hblank, hrest]
      rfl

/-! ## Objects -/

theorem length_le_intercalate (fields : List (String × Item)) :
    fields.length ≤ (List.intercalate [',', ' '] (fields.map fieldChars)).length := by
  induction fields with
  | nil => exact Nat.zero_le _
  | cons field fields ih =>
    have hfield : 1 ≤ (fieldChars field).length := by
      simp only [fieldChars, List.length_append, List.length_cons]
      omega
    cases fields with
    | nil => simpa using hfield
    | cons next fields =>
      simp only [List.map_cons, List.intercalate_cons_cons, List.length_append,
        List.length_cons] at ih ⊢
      omega

/-- An object that is written is read back whole, with the same members in the same order. Blanks
may stand behind it. -/
theorem ofText?_objectChars {fields : List (String × Item)} (hne : fields ≠ [])
    {blanks : List Char} (hblanks : skipBlanks blanks = []) :
    ofText? (objectChars fields ++ blanks) = some (object (fields.map ofField)) := by
  obtain ⟨field, fields, rfl⟩ := List.exists_cons_of_ne_nil hne
  let members := List.intercalate [',', ' '] ((field :: fields).map fieldChars) ++ '\x7d' :: blanks
  have hlength : (field :: fields).length < members.length := by
    have hle := length_le_intercalate (field :: fields)
    simp only [members, List.length_append, List.length_cons] at hle ⊢
    omega
  have hchars : objectChars (field :: fields) ++ blanks = '\x7b' :: members := by
    simp [objectChars, members]
  have hread : members? (members.length + 1) members =
      some ((field :: fields).map ofField, blanks) :=
    members?_fields hne blanks (by omega)
  -- an object with members does not close at once
  have hopen : ∃ more, skipBlanks members = '\x22' :: more ∧ members = '\x22' :: more := by
    cases fields <;> exact ⟨_, rfl, rfl⟩
  obtain ⟨more, hskip, hmembers⟩ := hopen
  have hvalue : value? (members.length + 2) ('\x7b' :: members) =
      some (object ((field :: fields).map ofField), blanks) := by
    rw [value?, if_neg (by decide), if_neg (by decide), if_pos rfl, hskip]
    show (members? (members.length + 1) ('\x22' :: more)).map _ = _
    rw [← hmembers, hread]
    rfl
  have hbrace : skipBlanks ('\x7b' :: members) = '\x7b' :: members := rfl
  rw [hchars, ofText?, hbrace, List.length_cons, hvalue]
  simp only [Option.bind_eq_bind, Option.bind_some, hblanks]
  rfl

end Reading.Json

end ShellWord
