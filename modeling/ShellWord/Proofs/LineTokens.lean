import ShellWord.Proofs.Ascii
import ShellWord.Proofs.EscapeQuoted
import ShellWord.ShellLine.Token
import ShellWord.Text.CodePoint

/-!
# A quoted word is one token

The tokenizer of a shell line knows nothing of words and how they are written: it only keeps track
of what is open. Every piece of a quoted word closes what it opens, so the tokenizer comes out of
it as it went in, with nothing open and no token ended.
-/

namespace ShellWord.ShellLine

variable {c d : Char} {cs after rest text more : List Char} {q : Construct} {stack : List Construct}
  {b : UInt8} {word data : Bytes}

/-! ## Bytes as characters -/

/-- ASCII data as the characters of a line. -/
def lineChars (data : Bytes) : List Char := data.map fun b => Char.ofNat b.toNat

@[simp]
theorem lineChars_append (data more : Bytes) :
    lineChars (data ++ more) = lineChars data ++ lineChars more := by
  simp [lineChars]

theorem ofNat_toNat_inj {b b' : UInt8} : Char.ofNat b.toNat = Char.ofNat b'.toNat ↔ b = b' := by
  have hval : ∀ x : UInt8, (Char.ofNat x.toNat).toNat = x.toNat := by
    intro x
    have hx := x.toNat_lt
    exact toNat_ofNat_of_isValidChar (.inl (by omega))
  rw [← Char.toNat_inj, hval, hval, UInt8.toNat_inj]

theorem ofNat_toNat_ne {b b' : UInt8} (h : b ≠ b') : Char.ofNat b.toNat ≠ Char.ofNat b'.toNat :=
  fun heq => h (ofNat_toNat_inj.1 heq)

theorem not_mem_lineChars (h : b ∉ data) : Char.ofNat b.toNat ∉ lineChars data := by
  intro hmem
  obtain ⟨b', hb', heq⟩ := List.mem_map.1 hmem
  exact h (ofNat_toNat_inj.1 heq ▸ hb')

/-! ## One character at a time -/

@[simp]
theorem prepend_prepend (cs ds : List Char) (r : Option (List Char × List Char)) :
    prepend cs (prepend ds r) = prepend (cs ++ ds) r := by
  cases r <;> simp [prepend]

@[simp]
theorem prepend_nil (r : Option (List Char × List Char)) : prepend [] r = r := by
  cases r <;> rfl

/-- A character that opens nothing, ends no word and begins no comment. -/
def IsPlain (c : Char) : Prop :=
  c ∉ ['\\', '\x27', '\x22', '\x60', '$', '<', '>', '(', '#'] ∧ endsWord c = false

instance (c : Char) : Decidable (IsPlain c) := inferInstanceAs (Decidable (_ ∧ _))

theorem scanWord_plain (hc : IsPlain c) (rest : List Char) :
    scanWord [] (c :: rest) = prepend [c] (scanWord [] rest) := by
  obtain ⟨hspecial, hends⟩ := hc
  simp only [List.mem_cons, List.not_mem_nil, or_false, not_or] at hspecial
  rw [scanWord.eq_def]
  simp [hspecial, hends, opens?]

theorem scanWord_backslash (hstack : stack.head? ≠ some .single) (hd : d ≠ '\n')
    (after : List Char) :
    scanWord stack ('\\' :: d :: after) = prepend ['\\', d] (scanWord stack after) := by
  rw [scanWord]
  simp [hstack, hd]

theorem scanWord_openQuote (hstack : stack.head? = none ∨ stack.head? = some .parenthesis)
    (rest : List Char) :
    scanWord stack ('\x27' :: rest) = prepend ['\x27'] (scanWord (.single :: stack) rest) := by
  rw [scanWord.eq_def]
  rcases hstack with hstack | hstack
  · simp [hstack, opens?]
  · simp [hstack, opens?, Construct.closing]

/-- Single quotes, with escapes or without. -/
def Construct.IsQuote (q : Construct) : Prop := q = .single ∨ q = .escaped

theorem scanWord_close (hq : q.IsQuote) (rest : List Char) :
    scanWord (q :: stack) ('\x27' :: rest) = prepend ['\x27'] (scanWord stack rest) := by
  rcases hq with rfl | rfl
  · rw [scanWord.eq_def]
    simp [Construct.closing]
  · rw [scanWord.eq_def]
    simp [Construct.closing]

/-- A dollar sign takes along one right behind it, which is how that would be read anyway. -/
theorem scanWord_dollar (hq : q.IsQuote) (rest : List Char) :
    scanWord (q :: stack) ('$' :: rest) = prepend ['$'] (scanWord (q :: stack) rest) := by
  have hopens : ∀ next, opens? (some q) '$' next = none := by
    rcases hq with rfl | rfl <;> exact fun _ => rfl
  have hclosing : q.closing = '\x27' := by
    rcases hq with rfl | rfl <;> rfl
  induction rest with
  | nil =>
    rw [scanWord.eq_def]
    simp [hopens, hclosing]
  | cons d after ih =>
    rw [scanWord.eq_def]
    by_cases hd : d = '$'
    · subst hd
      simp [hopens, hclosing, ih]
    · simp [hopens, hclosing, hd]

/-- Between single quotes all characters are alike, apart from the quote and, where there are
escapes, the backslash. -/
theorem scanWord_inside (hq : q.IsQuote) (hquote : c ≠ '\x27') (hslash : q = .escaped → c ≠ '\\')
    (rest : List Char) :
    scanWord (q :: stack) (c :: rest) = prepend [c] (scanWord (q :: stack) rest) := by
  by_cases hdollar : c = '$'
  · subst hdollar
    exact scanWord_dollar hq rest
  · rw [scanWord.eq_def]
    rcases hq with rfl | rfl
    · simp [Construct.closing, opens?, hquote.symm, hdollar]
    · simp [Construct.closing, opens?, hquote.symm, hdollar, hslash]

theorem scanWord_verbatim (h : '\x27' ∉ text) (rest : List Char) :
    scanWord (.single :: stack) (text ++ rest) =
      prepend text (scanWord (.single :: stack) rest) := by
  induction text with
  | nil => simp
  | cons c more ih =>
    obtain ⟨hc, hmore⟩ := List.ne_and_not_mem_of_not_mem_cons h
    rw [List.cons_append, scanWord_inside (.inl rfl) hc.symm nofun, ih hmore, prepend_prepend]
    rfl

/-! ## Pieces that keep everything closed -/

/-- A text through which the tokenizer goes without ending a word, and with nothing left open. -/
def IsClosed (text : List Char) : Prop :=
  ∀ rest, scanWord [] (text ++ rest) = prepend text (scanWord [] rest)

theorem isClosed_nil : IsClosed [] := by
  intro rest
  rw [prepend_nil, List.nil_append]

theorem IsClosed.append (htext : IsClosed text) (hmore : IsClosed more) :
    IsClosed (text ++ more) := by
  intro rest
  rw [List.append_assoc, htext, hmore, prepend_prepend]

theorem IsClosed.flatMap {α : Type} {items : List α} {f : α → List Char}
    (h : ∀ item ∈ items, IsClosed (f item)) : IsClosed (items.flatMap f) := by
  induction items with
  | nil => exact isClosed_nil
  | cons item rest ih =>
    obtain ⟨hitem, hrest⟩ := List.forall_mem_cons.1 h
    exact hitem.append (ih hrest)

theorem isClosed_of_plain (h : ∀ c ∈ text, IsPlain c) : IsClosed text := by
  induction text with
  | nil => exact isClosed_nil
  | cons c more ih =>
    obtain ⟨hc, hmore⟩ := List.forall_mem_cons.1 h
    intro rest
    rw [List.cons_append, scanWord_plain hc, ih hmore, prepend_prepend]
    rfl

theorem isClosed_verbatim (h : '\x27' ∉ text) : IsClosed ('\x27' :: (text ++ ['\x27'])) := by
  intro rest
  rw [List.cons_append, List.append_assoc, List.singleton_append, scanWord_openQuote (.inl rfl),
    scanWord_verbatim h, scanWord_close (.inl rfl), prepend_prepend, prepend_prepend]
  rfl

/-! ## What is written for a word -/

theorem isPlain_of_bare :
    ∀ b : UInt8, ByteClass.of b = .bare → IsPlain (Char.ofNat b.toNat) := by
  decide +kernel

theorem isClosed_of_isBare (h : isBare word = true) : IsClosed (lineChars word) := by
  refine isClosed_of_plain fun c hc => ?_
  obtain ⟨b, hb, rfl⟩ := List.mem_map.1 hc
  exact isPlain_of_bare b ((isBare_iff.1 h).2 b hb)

theorem isClosed_escapedQuote : IsClosed (lineChars SingleQuoted.escapedQuote) :=
  scanWord_backslash nofun (by decide)

theorem scanWord_printfOpening (rest : List Char) :
    scanWord [] (lineChars SingleQuoted.printfOpening ++ rest) =
      prepend (lineChars SingleQuoted.printfOpening)
        (scanWord [.single, .parenthesis, .double] rest) := by
  have hopening : lineChars SingleQuoted.printfOpening =
      ['\x22', '$', '(', 'p', 'r', 'i', 'n', 't', 'f', ' ', '\x27'] := by decide
  have hquote : scanWord [.parenthesis, .double] ('\x27' :: rest) =
      prepend ['\x27'] (scanWord [.single, .parenthesis, .double] rest) :=
    scanWord_openQuote (.inr rfl) rest
  rw [hopening]
  simp [scanWord, opens?, Construct.closing, hquote]

theorem scanWord_printfClosing (rest : List Char) :
    scanWord [.single, .parenthesis, .double] (lineChars SingleQuoted.printfClosing ++ rest) =
      prepend (lineChars SingleQuoted.printfClosing) (scanWord [] rest) := by
  have hclosing : lineChars SingleQuoted.printfClosing = ['\x27', ')', '\x22'] := by decide
  have hdouble : scanWord [.double] ('\x22' :: rest) = prepend ['\x22'] (scanWord [] rest) := by
    rw [scanWord.eq_def]
    simp [Construct.closing]
  rw [hclosing]
  simp [scanWord, Construct.closing, hdouble]

theorem isClosed_printfGroup (run : Bytes) :
    IsClosed (lineChars (SingleQuoted.printfGroup run)) := by
  intro rest
  have hquote : Char.ofNat (0x27 : UInt8).toNat ∉ lineChars (run.flatMap SingleQuoted.octal) :=
    not_mem_lineChars (not_mem_octals (by decide) (by decide) run)
  rw [SingleQuoted.printfGroup, lineChars_append, lineChars_append, List.append_assoc,
    List.append_assoc, scanWord_printfOpening, scanWord_verbatim hquote, scanWord_printfClosing,
    prepend_prepend, prepend_prepend, List.append_assoc]

theorem isClosed_renderRun {k : SingleQuoted.Kind} {run : Bytes}
    (h : ∀ b ∈ run, SingleQuoted.Kind.of b = k) :
    IsClosed (lineChars (SingleQuoted.renderRun k run)) := by
  cases k with
  | high => exact isClosed_printfGroup run
  | quote =>
    rw [SingleQuoted.renderRun, lineChars, List.map_flatMap]
    exact IsClosed.flatMap fun _ _ => isClosed_escapedQuote
  | verbatim =>
    have hquote : (0x27 : UInt8) ∉ run := by
      intro hmem
      have hkind := h _ hmem
      rw [SingleQuoted.kind_eq_quote_iff.2 rfl] at hkind
      cases hkind
    have hclosed := isClosed_verbatim (not_mem_lineChars hquote)
    rw [SingleQuoted.renderRun, lineChars_append, lineChars_append, List.append_assoc]
    exact hclosed

theorem isClosed_singleQuoted (word : Bytes) :
    IsClosed (lineChars (SingleQuoted.render word)) := by
  rw [SingleQuoted.render_eq_renderRuns, SingleQuoted.renderRuns, lineChars, List.map_flatMap]
  exact IsClosed.flatMap fun r hr => isClosed_renderRun (SingleQuoted.mem_runs hr).2

/-- Between `$'` and `'` the tokenizer goes through a text without closing the group. -/
def GoesThrough (text : List Char) : Prop :=
  ∀ rest, scanWord [.escaped] (text ++ rest) = prepend text (scanWord [.escaped] rest)

theorem GoesThrough.append (htext : GoesThrough text) (hmore : GoesThrough more) :
    GoesThrough (text ++ more) := by
  intro rest
  rw [List.append_assoc, htext, hmore, prepend_prepend]

theorem goesThrough_byte (hquote : b ≠ 0x27) (hslash : b ≠ 0x5C) : GoesThrough (lineChars [b]) :=
  scanWord_inside (.inr rfl) (ofNat_toNat_ne hquote) fun _ => ofNat_toNat_ne hslash

theorem goesThrough_backslash (hb : b ≠ 0x0A) : GoesThrough (lineChars [0x5C, b]) :=
  scanWord_backslash nofun (ofNat_toNat_ne hb)

/-- Whatever follows the backslash of an escape is covered by it or stands for itself. -/
theorem goesThrough_escape (b : UInt8) : GoesThrough (lineChars (EscapeQuoted.escape b)) := by
  rw [EscapeQuoted.escape]
  split
  · next letter hletter =>
    have hprintable := mnemonic_printable hletter
    exact goesThrough_backslash (by grind)
  · next hnone =>
    obtain ⟨hquote, hslash⟩ := Reading.mnemonic_of_special hnone
    cases ByteClass.of b with
    | control | high | nul =>
      have hdigit : ∀ n ∈ [b >>> 4, b &&& 0x0F],
          GoesThrough (lineChars [EscapeQuoted.hexDigit n]) := by
        intro n hn
        have hbounds := hexDigits_bounds b n hn
        exact goesThrough_byte (by grind) (by grind)
      have hdigits := (hdigit (b >>> 4) (by simp)).append (hdigit (b &&& 0x0F) (by simp))
      exact (goesThrough_backslash (show (0x78 : UInt8) ≠ 0x0A by decide)).append hdigits
    | bare | literal | quote => exact goesThrough_byte hquote hslash

theorem goesThrough_escapes (word : Bytes) :
    GoesThrough (lineChars (word.flatMap EscapeQuoted.escape)) := by
  induction word with
  | nil =>
    intro rest
    simp [lineChars]
  | cons b more ih =>
    rw [List.flatMap_cons, lineChars_append]
    exact (goesThrough_escape b).append ih

theorem isClosed_escapeQuoted (word : Bytes) :
    IsClosed (lineChars (EscapeQuoted.render word)) := by
  intro rest
  have hopen : ∀ more, scanWord [] (lineChars EscapeQuoted.opening ++ more) =
      prepend (lineChars EscapeQuoted.opening) (scanWord [.escaped] more) := by
    intro more
    have hopening : lineChars EscapeQuoted.opening = ['$', '\x27'] := by decide
    rw [hopening]
    simp [scanWord, opens?]
  have hclose : scanWord [.escaped] (lineChars EscapeQuoted.closing ++ rest) =
      prepend (lineChars EscapeQuoted.closing) (scanWord [] rest) := scanWord_close (.inr rfl) rest
  rw [EscapeQuoted.render, lineChars_append, lineChars_append, List.append_assoc,
    List.append_assoc, hopen, goesThrough_escapes, hclose, prepend_prepend, prepend_prepend,
    List.append_assoc]

/-- The tokenizer goes through a quoted word as a part of one token. -/
theorem isClosed_write (d : Dialect) (word : Bytes) : IsClosed (lineChars (d.write word)) := by
  rw [Dialect.write]
  cases hform : d.form word with
  | empty => exact isClosed_verbatim List.not_mem_nil
  | bare => exact isClosed_of_isBare (Dialect.form_eq_bare_iff.1 hform)
  | escapeQuoted => exact isClosed_escapeQuoted word
  | singleQuoted => exact isClosed_singleQuoted word

/-! ## Tokens -/

/-- A text that begins with a character at which a word may begin. -/
def BeginsWord (text : List Char) : Prop :=
  ∃ c more, text = c :: more ∧ endsWord c = false ∧ c ≠ '#'

theorem BeginsWord.append (h : BeginsWord text) (more : List Char) : BeginsWord (text ++ more) := by
  obtain ⟨c, rest, rfl, hc⟩ := h
  exact ⟨c, rest ++ more, rfl, hc⟩

theorem IsPlain.beginsWord (h : IsPlain c) (more : List Char) : BeginsWord (c :: more) := by
  obtain ⟨hspecial, hends⟩ := h
  exact ⟨c, more, rfl, hends, fun heq => hspecial (by simp [heq])⟩

theorem beginsWord_renderRun {k : SingleQuoted.Kind} {run : Bytes} (hne : run ≠ []) :
    BeginsWord (lineChars (SingleQuoted.renderRun k run)) := by
  cases k with
  | high => exact ⟨'\x22', _, rfl, by decide, by decide⟩
  | quote =>
    obtain ⟨b, more, rfl⟩ := List.exists_cons_of_ne_nil hne
    exact ⟨'\\', _, rfl, by decide, by decide⟩
  | verbatim => exact ⟨'\x27', _, rfl, by decide, by decide⟩

theorem beginsWord_write (d : Dialect) (word : Bytes) : BeginsWord (lineChars (d.write word)) := by
  rw [Dialect.write]
  cases hform : d.form word with
  | empty => exact ⟨'\x27', _, rfl, by decide, by decide⟩
  | bare =>
    obtain ⟨hne, hclass⟩ := isBare_iff.1 (Dialect.form_eq_bare_iff.1 hform)
    obtain ⟨b, more, rfl⟩ := List.exists_cons_of_ne_nil hne
    exact (isPlain_of_bare b (hclass b List.mem_cons_self)).beginsWord _
  | escapeQuoted => exact ⟨'$', _, rfl, by decide, by decide⟩
  | singleQuoted =>
    have hne : word ≠ [] := by
      rintro rfl
      cases hform
    obtain ⟨r, more, hruns⟩ := List.exists_cons_of_ne_nil (SingleQuoted.runs_ne_nil hne)
    have hmem : r ∈ SingleQuoted.runs word := hruns ▸ List.mem_cons_self
    rw [Form.render, SingleQuoted.render_eq_renderRuns, SingleQuoted.renderRuns, hruns,
      List.flatMap_cons, lineChars_append]
    exact (beginsWord_renderRun (SingleQuoted.mem_runs hmem).1).append _

theorem operators_endWord :
    ∀ symbol ∈ operators, (symbol.toList.head?.map endsWord) = some true := by
  decide

theorem operator?_eq_none (hc : endsWord c = false) (rest : List Char) :
    operator? (c :: rest) = none := by
  refine List.find?_eq_none.2 fun symbol hsymbol hprefix => ?_
  have hhead := operators_endWord symbol hsymbol
  cases hchars : symbol.toList with
  | nil => simp [hchars] at hhead
  | cons x more =>
    rw [hchars] at hhead hprefix
    obtain ⟨rfl, -⟩ : x = c ∧ more <+: rest := by simpa using hprefix
    simp [hc] at hhead

/-- A word ends in front of a blank, and at the end of the line. -/
theorem scanWord_end (hafter : after.head? = none ∨ after.head? = some ' ') :
    scanWord [] after = some ([], after) := by
  cases after with
  | nil => rfl
  | cons c more =>
    obtain rfl : c = ' ' := by simpa using hafter
    rw [scanWord.eq_def]
    simp [opens?, endsWord]

theorem tokensFrom_word (hclosed : IsClosed text) (hbegins : BeginsWord text)
    (hafter : after.head? = none ∨ after.head? = some ' ') (n place : Nat) :
    tokensFrom (n + 1) place (text ++ after) =
      .word ⟨text, place, place + text.length⟩ :: tokensFrom n (place + text.length) after := by
  have hscan : scanWord [] (text ++ after) = some (text, after) := by
    rw [hclosed, scanWord_end hafter]
    simp [prepend]
  have hnumber : isRedirectionNumber text after = false := by
    rcases hafter with h | h <;> simp [isRedirectionNumber, h]
  obtain ⟨c, more, rfl, hends, hcomment⟩ := hbegins
  have hbreak : ∀ x, endsWord x = true → c ≠ x := by
    rintro x hx rfl
    cases hends.symm.trans hx
  have hblank : c ≠ ' ' ∧ c ≠ '\t' := ⟨hbreak _ (by decide), hbreak _ (by decide)⟩
  have hline : c ≠ '\n' := hbreak _ (by decide)
  have hlength : more.length + after.length + 1 - after.length = more.length + 1 := by omega
  rw [List.cons_append] at hscan ⊢
  simp [tokensFrom, hblank, hline, hcomment, operator?_eq_none hends, hscan, hnumber, hlength]

/-- A line of a command and a quoted word has exactly two words. -/
theorem tokens_printf (hclosed : IsClosed text) (hbegins : BeginsWord text) :
    tokens 0 ("printf".toList ++ ' ' :: text) =
      [.word ⟨"printf".toList, 0, 6⟩, .word ⟨text, 7, 7 + text.length⟩, .finish] := by
  have hplain : ∀ c ∈ "printf".toList, IsPlain c := by simp [IsPlain, endsWord]
  have hcommand : BeginsWord "printf".toList := ⟨'p', _, rfl, by decide, by decide⟩
  have hlength : ("printf".toList ++ ' ' :: text).length = text.length + 7 := by
    simp
  rw [tokens, hlength, tokensFrom_word (isClosed_of_plain hplain) hcommand (.inr rfl)]
  have hword : tokensFrom (text.length + 6) 7 (text ++ []) =
      [.word ⟨text, 7, 7 + text.length⟩, .finish] :=
    tokensFrom_word hclosed hbegins (.inl rfl) (text.length + 5) 7
  rw [List.append_nil] at hword
  simp [tokensFrom, hword]

end ShellWord.ShellLine
