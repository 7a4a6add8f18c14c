import ShellWord.Proofs.Runs
import ShellWord.Quote.Dialect

/-!
# Quoted words are ASCII

Whatever a word holds, what is written for it is ASCII. A byte at or above `0x80` is only ever
written through digits, and every other byte of the output is of the word itself or of the quotes
around it. Written for bash, also control bytes become escapes, and the output is printable.
-/

namespace ShellWord

/-- Data that is ASCII throughout. -/
def IsAscii (data : Bytes) : Prop := ∀ b ∈ data, b < 0x80

/-- Data that is printable ASCII throughout, so that it is one line. -/
def IsPrintable (data : Bytes) : Prop := ∀ b ∈ data, 0x20 ≤ b ∧ b ≤ 0x7E

variable {word data more : Bytes}

@[simp]
theorem isAscii_nil : IsAscii [] := by
  simp [IsAscii]

@[simp]
theorem isAscii_cons {b : UInt8} : IsAscii (b :: data) ↔ b < 0x80 ∧ IsAscii data :=
  List.forall_mem_cons

theorem IsAscii.append (hdata : IsAscii data) (hmore : IsAscii more) : IsAscii (data ++ more) :=
  List.forall_mem_append.2 ⟨hdata, hmore⟩

theorem IsAscii.flatMap {α : Type} {items : List α} {f : α → Bytes}
    (h : ∀ item ∈ items, IsAscii (f item)) : IsAscii (items.flatMap f) :=
  List.forall_mem_flatMap.2 h

@[simp]
theorem isPrintable_nil : IsPrintable [] := by
  simp [IsPrintable]

@[simp]
theorem isPrintable_cons {b : UInt8} :
    IsPrintable (b :: data) ↔ (0x20 ≤ b ∧ b ≤ 0x7E) ∧ IsPrintable data :=
  List.forall_mem_cons

theorem IsPrintable.append (hdata : IsPrintable data) (hmore : IsPrintable more) :
    IsPrintable (data ++ more) :=
  List.forall_mem_append.2 ⟨hdata, hmore⟩

theorem IsPrintable.flatMap {α : Type} {items : List α} {f : α → Bytes}
    (h : ∀ item ∈ items, IsPrintable (f item)) : IsPrintable (items.flatMap f) :=
  List.forall_mem_flatMap.2 h

theorem IsPrintable.isAscii (h : IsPrintable data) : IsAscii data := by
  intro b hb
  have hbounds := h b hb
  grind

/-! ## Bytes by class -/

theorem printable_of_class {b : UInt8} (hnul : ByteClass.of b ≠ .nul)
    (hcontrol : ByteClass.of b ≠ .control) (hhigh : ByteClass.of b ≠ .high) :
    0x20 ≤ b ∧ b ≤ 0x7E := by
  rw [ne_eq, ByteClass.of_eq_nul_iff] at hnul
  rw [ne_eq, ByteClass.of_eq_control_iff] at hcontrol
  rw [ne_eq, ByteClass.of_eq_high_iff] at hhigh
  grind

theorem isPrintable_of_isBare (h : isBare word = true) : IsPrintable word := by
  intro b hb
  have hclass := (isBare_iff.1 h).2 b hb
  exact printable_of_class (by simp [hclass]) (by simp [hclass]) (by simp [hclass])

theorem isPrintable_of_needsEscape (hzero : 0 ∉ word) (h : needsEscape word = false) :
    IsPrintable word := by
  intro b hb
  obtain ⟨hcontrol, hhigh⟩ := needsEscape_eq_false_iff.1 h b hb
  have hnul : ByteClass.of b ≠ .nul := by
    rw [ne_eq, ByteClass.of_eq_nul_iff]
    rintro rfl
    exact hzero hb
  exact printable_of_class hnul hcontrol hhigh

/-! ## Escapes -/

theorem hexDigit_bounds {n : UInt8} (h : n ≤ 0x0F) :
    0x30 ≤ EscapeQuoted.hexDigit n ∧ EscapeQuoted.hexDigit n ≤ 0x46 := by
  rw [EscapeQuoted.hexDigit]
  grind

theorem octalDigit_bounds {n : UInt8} (h : n ≤ 0x07) :
    0x30 ≤ SingleQuoted.octalDigit n ∧ SingleQuoted.octalDigit n ≤ 0x37 := by
  rw [SingleQuoted.octalDigit]
  grind

theorem mnemonic_printable {b letter : UInt8} (h : EscapeQuoted.mnemonic? b = some letter) :
    0x20 ≤ letter ∧ letter ≤ 0x7E := by
  rw [EscapeQuoted.mnemonic?] at h
  split_ifs at h <;> cases h <;> decide

theorem hexDigits_bounds (b : UInt8) : ∀ n ∈ [b >>> 4, b &&& 0x0F],
    0x30 ≤ EscapeQuoted.hexDigit n ∧ EscapeQuoted.hexDigit n ≤ 0x46 := by
  have hhigh : b >>> 4 ≤ 0x0F := by
    rw [UInt8.le_iff_toNat_le, UInt8.toNat_shiftRight, Nat.shiftRight_eq_div_pow]
    exact Nat.le_of_lt_succ (Nat.div_lt_of_lt_mul b.toNat_lt)
  simp only [List.forall_mem_cons, List.not_mem_nil, false_implies, implies_true, and_true]
  exact ⟨hexDigit_bounds hhigh, hexDigit_bounds UInt8.and_le_right⟩

/-- What is written for a byte between escapes is printable, whatever the byte. -/
theorem isPrintable_escape (b : UInt8) : IsPrintable (EscapeQuoted.escape b) := by
  rw [EscapeQuoted.escape]
  split
  · next letter hletter => simpa using mnemonic_printable hletter
  · cases hclass : ByteClass.of b with
    | control | high | nul =>
      have hfirst := hexDigits_bounds b (b >>> 4) (by simp)
      have hsecond := hexDigits_bounds b (b &&& 0x0F) (by simp)
      simp only [isPrintable_cons, isPrintable_nil, and_true]
      grind
    | bare | literal | quote =>
      have hb := printable_of_class (b := b) (by simp [hclass]) (by simp [hclass]) (by simp [hclass])
      simpa using hb

theorem mem_octal {b c : UInt8} (h : c ∈ SingleQuoted.octal b) :
    c = 0x5C ∨ 0x30 ≤ c ∧ c ≤ 0x37 := by
  have hhigh : b >>> 6 ≤ 0x07 := by
    rw [UInt8.le_iff_toNat_le, UInt8.toNat_shiftRight, Nat.shiftRight_eq_div_pow]
    exact Nat.le_of_lt_succ (Nat.div_lt_of_lt_mul (Nat.lt_trans b.toNat_lt (by decide)))
  have hmiddle : (b >>> 3) &&& 0x07 ≤ 0x07 := UInt8.and_le_right
  have hlow : b &&& 0x07 ≤ 0x07 := UInt8.and_le_right
  simp only [SingleQuoted.octal, List.mem_cons, List.not_mem_nil, or_false] at h
  rcases h with rfl | rfl | rfl | rfl
  · exact .inl rfl
  · exact .inr (octalDigit_bounds hhigh)
  · exact .inr (octalDigit_bounds hmiddle)
  · exact .inr (octalDigit_bounds hlow)

theorem not_mem_octals {c : UInt8} (hslash : c ≠ 0x5C) (hdigit : c < 0x30) (run : Bytes) :
    c ∉ run.flatMap SingleQuoted.octal := by
  intro h
  obtain ⟨b, _, hb⟩ := List.mem_flatMap.1 h
  have hcases := mem_octal hb
  grind

theorem isPrintable_octal (b : UInt8) : IsPrintable (SingleQuoted.octal b) := by
  intro c hc
  have hcases := mem_octal hc
  grind

/-! ## The forms -/

theorem isPrintable_escapeQuoted (word : Bytes) : IsPrintable (EscapeQuoted.render word) := by
  have hopening : IsPrintable EscapeQuoted.opening := by simp [EscapeQuoted.opening]
  have hclosing : IsPrintable EscapeQuoted.closing := by simp [EscapeQuoted.closing]
  exact (hopening.append (.flatMap fun b _ => isPrintable_escape b)).append hclosing

theorem isPrintable_printfGroup (run : Bytes) : IsPrintable (SingleQuoted.printfGroup run) := by
  have hopening : IsPrintable SingleQuoted.printfOpening := by simp [SingleQuoted.printfOpening]
  have hclosing : IsPrintable SingleQuoted.printfClosing := by simp [SingleQuoted.printfClosing]
  exact (hopening.append (.flatMap fun b _ => isPrintable_octal b)).append hclosing

theorem isPrintable_quotes (run : Bytes) :
    IsPrintable (SingleQuoted.renderRun .quote run) := by
  have hquote : IsPrintable SingleQuoted.escapedQuote := by simp [SingleQuoted.escapedQuote]
  exact .flatMap fun _ _ => hquote

theorem isPrintable_singleQuoted (h : IsPrintable word) :
    IsPrintable (SingleQuoted.render word) := by
  rw [SingleQuoted.render_eq_renderRuns, SingleQuoted.renderRuns]
  refine .flatMap fun r hr => ?_
  cases hkind : r.1 with
  | high => exact isPrintable_printfGroup r.2
  | quote => exact isPrintable_quotes r.2
  | verbatim =>
    have hquote : IsPrintable [0x27] := by simp
    have hrun : IsPrintable r.2 := by
      intro b hb
      refine h b ?_
      rw [← SingleQuoted.flatMap_snd_runs word]
      exact List.mem_flatMap.2 ⟨r, hr, hb⟩
    exact (hquote.append hrun).append hquote

theorem isAscii_renderRun {k : SingleQuoted.Kind} {run : Bytes}
    (h : ∀ b ∈ run, SingleQuoted.Kind.of b = k) : IsAscii (SingleQuoted.renderRun k run) := by
  cases k with
  | high => exact (isPrintable_printfGroup run).isAscii
  | quote => exact (isPrintable_quotes run).isAscii
  | verbatim =>
    have hquote : IsAscii [0x27] := by simp
    have hrun : IsAscii run := by
      intro b hb
      refine UInt8.not_le.1 fun hhigh => ?_
      have hkind := h b hb
      rw [SingleQuoted.kind_eq_high_iff.2 hhigh] at hkind
      cases hkind
    exact (hquote.append hrun).append hquote

theorem isAscii_singleQuoted (word : Bytes) : IsAscii (SingleQuoted.render word) := by
  rw [SingleQuoted.render_eq_renderRuns, SingleQuoted.renderRuns]
  exact .flatMap fun _ hr => isAscii_renderRun (SingleQuoted.mem_runs hr).2

namespace Dialect

variable {d : Dialect} {word quoted : Bytes}

theorem form_eq_bare_iff : d.form word = .bare ↔ isBare word = true := by
  by_cases hempty : word.isEmpty
  · simp [form, hempty, isBare]
  · by_cases hbare : isBare word
    · simp [form, hempty, hbare]
    · cases d with
      | bash => by_cases hescape : needsEscape word <;> simp [form, hempty, hbare, hescape]
      | sh => simp [form, hempty, hbare]

theorem form_bash_of_needsEscape (h : needsEscape word = true) :
    bash.form word = .escapeQuoted := by
  obtain ⟨b, hb, hclass⟩ := List.any_eq_true.1 h
  have hne : word.isEmpty = false := List.isEmpty_eq_false_iff.2 (List.ne_nil_of_mem hb)
  have hbare : isBare word ≠ true := by
    intro hbare
    simp [(isBare_iff.1 hbare).2 b hb] at hclass
  simp [form, hne, hbare, h]

theorem form_bash_of_not_needsEscape (h : needsEscape word = false) :
    bash.form word = sh.form word := by
  simp [form, h]

theorem form_sh_cases (word : Bytes) :
    (sh.form word = .empty ∧ word = []) ∨ (sh.form word = .bare ∧ isBare word = true) ∨
      sh.form word = .singleQuoted := by
  cases word with
  | nil => exact .inl ⟨rfl, rfl⟩
  | cons b rest => by_cases hbare : isBare (b :: rest) <;> simp [form, hbare]

theorem isPrintable_write_bash (hzero : 0 ∉ word) : IsPrintable (bash.write word) := by
  rw [write]
  cases hescape : needsEscape word with
  | true =>
    rw [form_bash_of_needsEscape hescape]
    exact isPrintable_escapeQuoted word
  | false =>
    rw [form_bash_of_not_needsEscape hescape]
    rcases form_sh_cases word with ⟨hform, _⟩ | ⟨hform, hbare⟩ | hform
    · simp [hform, Form.render]
    · simpa [hform, Form.render] using isPrintable_of_isBare hbare
    · rw [hform]
      exact isPrintable_singleQuoted (isPrintable_of_needsEscape hzero hescape)

theorem isAscii_write : IsAscii (d.write word) := by
  rw [write]
  cases hform : d.form word with
  | empty => simp [Form.render]
  | bare => exact (isPrintable_of_isBare (form_eq_bare_iff.1 hform)).isAscii
  | escapeQuoted => exact (isPrintable_escapeQuoted word).isAscii
  | singleQuoted => exact isAscii_singleQuoted word

theorem isAscii_quote (h : d.quote word = .ok quoted) : IsAscii quoted := by
  rw [quote] at h
  cases hcheck : checkNoNul word with
  | error e =>
    rw [hcheck] at h
    cases h
  | ok _ =>
    rw [hcheck] at h
    cases h
    exact isAscii_write

end Dialect

end ShellWord
