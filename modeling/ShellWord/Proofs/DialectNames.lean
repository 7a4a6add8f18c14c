import ShellWord.Quote.DialectName
import ShellWord.Text.CodePoint
import Mathlib.Data.List.Forall2
import Mathlib.Data.List.TakeWhile
import Mathlib.Tactic.Common

/-!
# The names that are accepted

A name is accepted if it is that of a dialect, each letter in upper or lower case, with any blanks
around it. The lower case that decides is the full mapping of Unicode, but no character beyond
ASCII is sent to a letter of a name. So only the blanks can be beyond ASCII.
-/

namespace ShellWord

variable {c x : Char} {s t front back letters word : List Char} {d : Dialect} {name : String}

/-! ## Blanks at the ends -/

theorem exists_eq_append_strip (s : List Char) :
    ∃ front back, s = front ++ strip s ++ back ∧ (∀ c ∈ front, isBlank c = true) ∧
      ∀ c ∈ back, isBlank c = true := by
  let rest := (s.dropWhile isBlank).reverse
  refine ⟨s.takeWhile isBlank, (rest.takeWhile isBlank).reverse, ?_, ?_, ?_⟩
  · have hback : strip s ++ (rest.takeWhile isBlank).reverse = s.dropWhile isBlank := by
      rw [strip, ← List.reverse_append, List.takeWhile_append_dropWhile, List.reverse_reverse]
    rw [List.append_assoc, hback, List.takeWhile_append_dropWhile]
  · intro c hc
    exact List.mem_takeWhile_imp hc
  · intro c hc
    exact List.mem_takeWhile_imp (List.mem_reverse.1 hc)

theorem dropWhile_append_of_blank (hfront : ∀ c ∈ front, isBlank c = true) (hne : t ≠ [])
    (ht : ∀ c ∈ t, isBlank c = false) (back : List Char) :
    (front ++ (t ++ back)).dropWhile isBlank = t ++ back := by
  rw [List.dropWhile_append_of_pos hfront]
  obtain ⟨c, rest, rfl⟩ := List.exists_cons_of_ne_nil hne
  exact List.dropWhile_cons_of_neg (by simp [ht c List.mem_cons_self])

theorem strip_append (hfront : ∀ c ∈ front, isBlank c = true) (hback : ∀ c ∈ back, isBlank c = true)
    (hne : t ≠ []) (ht : ∀ c ∈ t, isBlank c = false) : strip (front ++ t ++ back) = t := by
  have hback' : ∀ c ∈ back.reverse, isBlank c = true :=
    fun c hc => hback c (List.mem_reverse.1 hc)
  have ht' : ∀ c ∈ t.reverse, isBlank c = false := fun c hc => ht c (List.mem_reverse.1 hc)
  have hrev : (t ++ back).reverse = back.reverse ++ (t.reverse ++ []) := by simp
  rw [strip, List.append_assoc, dropWhile_append_of_blank hfront hne ht, hrev,
    dropWhile_append_of_blank hback' (by simpa using hne) ht', List.append_nil,
    List.reverse_reverse]

/-! ## Lower case -/

/-- A lower-case letter that stands in the lower case of no character beyond ASCII. Two letters are
left out: the lower case of `U+0130` begins with an `i`, and that of `U+212A` is a `k`. -/
def IsPlainLetter (x : Char) : Prop :=
  0x61 ≤ x.toNat ∧ x.toNat ≤ 0x7A ∧ x.toNat ≠ 0x69 ∧ x.toNat ≠ 0x6B

instance (x : Char) : Decidable (IsPlainLetter x) :=
  inferInstanceAs (Decidable (_ ∧ _))

theorem toNat_ofNat_cases (n : Nat) : (Char.ofNat n).toNat = n ∨ (Char.ofNat n).toNat = 0 := by
  by_cases h : n.isValidChar
  · exact .inl (toNat_ofNat_of_isValidChar h)
  · right
    rw [Char.ofNat, dif_neg h]
    rfl

theorem beyond_ascii_of_mem_lowercaseRanges :
    ∀ r ∈ lowercaseRanges, r = ⟨0x212A, 0x212A, 1, -8383⟩ ∨ 0x80 ≤ (r.first : Int) + r.delta := by
  decide +kernel

theorem not_isPlainLetter_of_mem_lowercase (hc : 0x80 ≤ c.toNat) (hx : x ∈ lowercase c) :
    ¬ IsPlainLetter x := by
  rintro ⟨hlow, hhigh, hi, hk⟩
  rw [lowercase] at hx
  simp only [show ¬ c.toNat < 0x80 by omega, if_false] at hx
  split at hx
  · simp only [List.mem_cons, List.not_mem_nil, or_false] at hx
    rcases hx with rfl | rfl
    · exact hi rfl
    · exact absurd hhigh (by decide)
  · split at hx
    · next r hr =>
      have hcovers : r.first ≤ c.toNat ∧ c.toNat ≤ r.last := by
        have hfind := List.find?_some hr
        simp only [LowercaseRange.covers, Bool.and_eq_true, decide_eq_true_eq] at hfind
        exact hfind.1
      have hcases := toNat_ofNat_cases (c.toNat + r.delta).toNat
      rw [← List.mem_singleton.1 hx] at hcases
      rcases beyond_ascii_of_mem_lowercaseRanges r (List.mem_of_find?_eq_some hr) with rfl | hr
      · simp only at hcovers hcases
        omega
      · omega
    · rw [List.mem_singleton.1 hx] at hhigh
      omega

theorem lowercase_of_ascii (hc : c.toNat < 0x80) :
    lowercase c = [if 0x41 ≤ c.toNat ∧ c.toNat ≤ 0x5A then Char.ofNat (c.toNat + 0x20) else c] := by
  rw [lowercase]
  exact if_pos hc

theorem toNat_toUpper (hx : IsPlainLetter x) : x.toUpper.toNat + 0x20 = x.toNat := by
  obtain ⟨hlow, hhigh, -⟩ := hx
  have hval : x.val ≥ 'a'.val ∧ x.val ≤ 'z'.val := by
    constructor
    · exact UInt32.le_iff_toNat_le.2 hlow
    · exact UInt32.le_iff_toNat_le.2 hhigh
  have hupper : x.toUpper = ⟨x.val + ('A'.val - 'a'.val), _⟩ := dif_pos hval
  rw [hupper]
  show (x.val + ('A'.val - 'a'.val)).toNat + 0x20 = x.val.toNat
  have hshift : ('A'.val - 'a'.val).toNat = 2 ^ 32 - 0x20 := by decide
  have hx : x.val.toNat = x.toNat := rfl
  rw [UInt32.toNat_add, hshift]
  omega

theorem lowercase_eq_singleton_iff (hx : IsPlainLetter x) :
    lowercase c = [x] ↔ c = x ∨ c = x.toUpper := by
  have hupper := toNat_toUpper hx
  rw [← Char.toNat_inj, ← Char.toNat_inj]
  by_cases hc : c.toNat < 0x80
  · rw [lowercase_of_ascii hc, List.cons.injEq, and_iff_left rfl, ← Char.toNat_inj]
    obtain ⟨hlow, hhigh, -⟩ := hx
    split_ifs with hrange
    · rw [toNat_ofNat_of_isValidChar (.inl (by omega))]
      omega
    · omega
  · have hbeyond : lowercase c ≠ [x] := by
      intro hlower
      have hmem : x ∈ lowercase c := hlower ▸ List.mem_singleton_self x
      exact not_isPlainLetter_of_mem_lowercase (by omega) hmem hx
    obtain ⟨hlow, hhigh, -⟩ := hx
    simp only [hbeyond, false_iff]
    omega

/-- The lower case of a character is one character, except for `U+0130`. -/
theorem lowercase_cases (c : Char) :
    (∃ x, lowercase c = [x]) ∨ lowercase c = ['i', Char.ofNat 0x307] := by
  rw [lowercase]
  split_ifs
  · exact .inl ⟨_, rfl⟩
  · exact .inl ⟨_, rfl⟩
  · exact .inr rfl
  · split
    · exact .inl ⟨_, rfl⟩
    · exact .inl ⟨_, rfl⟩

/-- Letters that spell a word, each of them in upper or lower case. -/
def SpellInEitherCase (letters word : List Char) : Prop :=
  List.Forall₂ (fun c x => c = x ∨ c = x.toUpper) letters word

theorem lowercaseText_eq_iff (hword : ∀ x ∈ word, IsPlainLetter x) :
    lowercaseText s = word ↔ SpellInEitherCase s word := by
  induction s generalizing word with
  | nil => simp [lowercaseText, SpellInEitherCase, eq_comm]
  | cons c rest ih =>
    rw [lowercaseText, List.flatMap_cons, ← lowercaseText, SpellInEitherCase,
      List.forall₂_cons_left_iff]
    rcases lowercase_cases c with ⟨y, hy⟩ | hi
    · rw [hy, List.singleton_append]
      constructor
      · rintro rfl
        obtain ⟨hfirst, hrest⟩ := List.forall_mem_cons.1 hword
        exact ⟨y, _, (lowercase_eq_singleton_iff hfirst).1 hy, (ih hrest).1 rfl, rfl⟩
      · rintro ⟨x, more, hx, hmore, rfl⟩
        obtain ⟨hfirst, hrest⟩ := List.forall_mem_cons.1 hword
        rw [(lowercase_eq_singleton_iff hfirst).2 hx] at hy
        rw [(ih hrest).2 hmore, (List.singleton_inj.1 hy)]
    · rw [hi]
      constructor
      · rintro rfl
        exact absurd (hword 'i' List.mem_cons_self) (by decide)
      · rintro ⟨x, more, hx, -, rfl⟩
        rw [(lowercase_eq_singleton_iff (hword x List.mem_cons_self)).2 hx] at hi
        cases hi

/-! ## Names -/

theorem isPlainLetter_of_mem_name (d : Dialect) : ∀ x ∈ d.name.toList, IsPlainLetter x := by
  cases d <;> simp [Dialect.name, IsPlainLetter]

theorem isBlank_eq_false_of_isPlainLetter (hx : IsPlainLetter x) (hc : c = x ∨ c = x.toUpper) :
    isBlank c = false := by
  have hupper := toNat_toUpper hx
  obtain ⟨hlow, hhigh, -⟩ := hx
  have hrange : 0x41 ≤ c.toNat ∧ c.toNat ≤ 0x7A := by
    rcases hc with rfl | rfl
    · omega
    · omega
  simp only [isBlank, blankRanges, List.any_cons, List.any_nil, Bool.or_eq_false_iff,
    Bool.and_eq_false_iff, decide_eq_false_iff_not, and_true]
  omega

theorem SpellInEitherCase.ascii (h : SpellInEitherCase letters word)
    (hword : ∀ x ∈ word, IsPlainLetter x) :
    ∀ c ∈ letters, isBlank c = false ∧ c.toNat < 0x80 := by
  induction h with
  | nil => simp
  | @cons c x _ _ hcx _ ih =>
    obtain ⟨hx, hmore⟩ := List.forall_mem_cons.1 hword
    refine List.forall_mem_cons.2 ⟨⟨isBlank_eq_false_of_isPlainLetter hx hcx, ?_⟩, ih hmore⟩
    have hupper := toNat_toUpper hx
    obtain ⟨-, hhigh, -⟩ := hx
    rcases hcx with rfl | rfl
    · omega
    · omega

namespace Dialect

theorem find?_name_eq_some_iff {key : List Char} :
    all.find? (fun d => d.name.toList = key) = some d ↔ key = d.name.toList := by
  by_cases hbash : key = bash.name.toList
  · subst hbash
    cases d <;> decide
  by_cases hsh : key = sh.name.toList
  · subst hsh
    cases d <;> decide
  have hnone : all.find? (fun d => d.name.toList = key) = none := by
    simp [all, Ne.symm hbash, Ne.symm hsh]
  simp only [hnone, reduceCtorEq, false_iff]
  cases d with
  | bash => exact hbash
  | sh => exact hsh

theorem ofName_eq_ok_iff_lowercaseText :
    ofName name = .ok d ↔ lowercaseText (strip name.toList) = d.name.toList := by
  rw [ofName, ← find?_name_eq_some_iff]
  split
  · next d' hfind => simp [hfind]
  · next hfind => simp [hfind]

theorem ofName_eq_error (h : ∀ d, ofName name ≠ .ok d) : ofName name = .error ⟨name⟩ := by
  rw [ofName] at h ⊢
  split at h
  · next d _ => exact absurd rfl (h d)
  · rfl

theorem ofName_eq_ok_iff :
    ofName name = .ok d ↔ ∃ front letters back, name.toList = front ++ letters ++ back ∧
      (∀ c ∈ front, isBlank c = true) ∧ SpellInEitherCase letters d.name.toList ∧
        ∀ c ∈ back, isBlank c = true := by
  have hword := isPlainLetter_of_mem_name d
  rw [ofName_eq_ok_iff_lowercaseText, lowercaseText_eq_iff hword]
  constructor
  · intro hspell
    obtain ⟨front, back, hname, hfront, hback⟩ := exists_eq_append_strip name.toList
    exact ⟨front, strip name.toList, back, hname, hfront, hspell, hback⟩
  · rintro ⟨front, letters, back, hname, hfront, hspell, hback⟩
    have hne : letters ≠ [] := by
      rintro rfl
      cases d <;> cases hspell
    rw [hname, strip_append hfront hback hne fun c hc => (hspell.ascii hword c hc).1]
    exact hspell

theorem message_unknown (name : String) :
    UnknownDialect.message ⟨name⟩ = s!"unknown dialect '{name}', expected one of: bash, sh" := by
  have hchoices : ", ".intercalate (all.map Dialect.name) = "bash, sh" := by decide
  have hend : "', expected one of: bash, sh" = "', expected one of: " ++ "bash, sh" := by decide
  unfold UnknownDialect.message
  rw [hchoices, hend]
  exact String.append_assoc

/-- A name is that of a dialect if it consists of blanks, the letters of the dialect's name, each in
upper or lower case, and blanks again. Every other name is refused, and the report shows it as it
was given. Between the blanks around an accepted name all is ASCII. -/
theorem ofName_accepts (name : String) :
    (∀ d, ofName name = .ok d ↔ ∃ front letters back, name.toList = front ++ letters ++ back ∧
      (∀ c ∈ front, isBlank c = true) ∧ SpellInEitherCase letters d.name.toList ∧
        ∀ c ∈ back, isBlank c = true) ∧
    ((∀ d, ofName name ≠ .ok d) → ∃ e, ofName name = .error e ∧
      e.message = s!"unknown dialect '{name}', expected one of: bash, sh") ∧
    ∀ d, ofName name = .ok d → ∀ c ∈ strip name.toList, c.toNat < 0x80 := by
  refine ⟨fun _ => ofName_eq_ok_iff, fun h => ⟨⟨name⟩, ofName_eq_error h, message_unknown name⟩, ?_⟩
  intro d hd c hc
  have hword := isPlainLetter_of_mem_name d
  rw [ofName_eq_ok_iff_lowercaseText, lowercaseText_eq_iff hword] at hd
  exact (hd.ascii hword c hc).2

/-- Blanks of any kind may stand around a name; a long `s` is no letter of one. -/
example : (ofName "\u00a0BaSh\u2003").toOption = some .bash ∧
    (ofName "ba\u017fh").toOption = none := by
  decide

end Dialect

end ShellWord
