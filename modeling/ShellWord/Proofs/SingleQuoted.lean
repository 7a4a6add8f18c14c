import ShellWord.Proofs.Ascii
import ShellWord.Proofs.Spelling

/-!
# Reading the single-quoted form back

Each run of a word is written as pieces that spell it: a verbatim group, a covered quote for each
single quote, and for high bytes a substitution of `printf`, which loses no newline because no
high byte is one.
-/

namespace ShellWord.Reading

open SingleQuoted (Kind kind_eq_quote_iff)

variable {k : Constructs}

/-! ## Octal escapes -/

theorem byteOfDigits_octalDigits : ∀ b : UInt8, b ≠ 0 →
    isOctalDigit (SingleQuoted.octalDigit (b >>> 6)) = true ∧
    isOctalDigit (SingleQuoted.octalDigit ((b >>> 3) &&& 0x07)) = true ∧
    isOctalDigit (SingleQuoted.octalDigit (b &&& 0x07)) = true ∧
    byteOfDigits? 8 [SingleQuoted.octalDigit (b >>> 6),
      SingleQuoted.octalDigit ((b >>> 3) &&& 0x07), SingleQuoted.octalDigit (b &&& 0x07)] =
      some b := by
  decide +kernel

/-- An octal escape takes its three digits and no more, also before another digit. -/
theorem octalEscape_three {b : UInt8} (hb : b ≠ 0) (text : Bytes) :
    octalEscape? (SingleQuoted.octalDigit (b >>> 6) ::
      SingleQuoted.octalDigit ((b >>> 3) &&& 0x07) :: SingleQuoted.octalDigit (b &&& 0x07) ::
      text) = some (b, 3) := by
  obtain ⟨h₁, h₂, h₃, hvalue⟩ := byteOfDigits_octalDigits b hb
  simp [octalEscape?, h₁, h₂, h₃, hvalue]

theorem printedFrom_octal {b : UInt8} (hb : b ≠ 0) (text : Bytes) :
    printedFrom 0 (SingleQuoted.octal b ++ text) = (printedFrom 0 text).map (b :: ·) := by
  rw [SingleQuoted.octal, List.cons_append, printedFrom, if_neg (by decide), if_pos rfl]
  simp only [List.cons_append, List.nil_append, octalEscape_three hb, Option.bind_eq_bind,
    Option.bind_some, printedFrom]
  cases printedFrom 0 text <;> rfl

theorem printedFrom_octals {run : Bytes} (h : 0 ∉ run) :
    printedFrom 0 (run.flatMap SingleQuoted.octal) = some run := by
  induction run with
  | nil => rfl
  | cons b rest ih =>
    obtain ⟨hb, hrest⟩ := List.ne_and_not_mem_of_not_mem_cons h
    rw [List.flatMap_cons, printedFrom_octal hb.symm, ih hrest]
    rfl

/-! ## The three kinds of bytes -/

theorem ne_of_kind_high {b : UInt8} (h : Kind.of b = .high) : b ≠ 0 ∧ b ≠ 0x0A := by
  constructor
  · rintro rfl
    cases h
  · rintro rfl
    cases h

/-- A substitution takes nothing away from an output without newlines. -/
theorem substituted_of_not_mem {output : Bytes} (h : 0x0A ∉ output) :
    substituted output = output := by
  have hrev : output.reverse.dropWhile (· = 0x0A) = output.reverse := by
    cases hcases : output.reverse with
    | nil => rfl
    | cons b rest =>
      have hmem : b ∈ output := by
        rw [← List.mem_reverse, hcases]
        exact List.mem_cons_self
      have hb : b ≠ 0x0A := fun heq => h (heq ▸ hmem)
      simp [hb]
  rw [substituted, hrev, List.reverse_reverse]

theorem printf?_substitution {format output : Bytes} (hquote : 0x27 ∉ format)
    (hprinted : printedFrom 0 format = some output) (after : Bytes) :
    printf? (printfOpening ++ (format ++ 0x27 :: (printfClosing ++ after))) =
      some (substituted output, after) := by
  have hverbatim := verbatim?_append_quote hquote (printfClosing ++ after)
  simp [printf?, hverbatim, hprinted]

/-! ## Runs as pieces -/

theorem isPiece_printfGroup (hk : k.printf = true) {run : Bytes}
    (hrun : ∀ b ∈ run, Kind.of b = .high) : IsPiece k (SingleQuoted.printfGroup run) run := by
  intro after
  have hzero : 0 ∉ run := fun h => (ne_of_kind_high (hrun 0 h)).1 rfl
  have hnewline : 0x0A ∉ run := fun h => (ne_of_kind_high (hrun _ h)).2 rfl
  have hquote := not_mem_octals (c := 0x27) (by decide) (by decide) run
  have hread := printf?_substitution hquote (printedFrom_octals hzero) after
  rw [substituted_of_not_mem hnewline] at hread
  simpa [SingleQuoted.printfGroup, SingleQuoted.printfOpening, SingleQuoted.printfClosing,
    printfOpening, printfClosing, piece?, hk] using hread

theorem spells_quotes {run : Bytes} (hne : run ≠ []) (hrun : ∀ b ∈ run, Kind.of b = .quote) :
    Spells k (run.flatMap fun _ => SingleQuoted.escapedQuote) run := by
  have hquotes : ∀ b ∈ run, Spells k SingleQuoted.escapedQuote [b] := by
    intro b hb
    rw [kind_eq_quote_iff.1 (hrun b hb)]
    exact .piece (isPiece_backslash (by decide))
  simpa using spells_flatMap hne hquotes

/-- The rendering of a run spells it. Only high bytes need a shell that knows `printf`. -/
theorem spells_renderRun {kind : Kind} {run : Bytes} (hne : run ≠ [])
    (hrun : ∀ b ∈ run, Kind.of b = kind) (hk : kind = .high → k.printf = true) :
    Spells k (SingleQuoted.renderRun kind run) run := by
  cases kind with
  | high => exact .piece (isPiece_printfGroup (hk rfl) hrun)
  | quote => exact spells_quotes hne hrun
  | verbatim =>
    have hquote : 0x27 ∉ run := by
      intro h
      have hkind := hrun 0x27 h
      rw [kind_eq_quote_iff.2 rfl] at hkind
      simp at hkind
    exact .piece (isPiece_verbatim hquote)

theorem spells_singleQuoted {word : Bytes} (hne : word ≠ [])
    (hk : (∃ b ∈ word, Kind.of b = .high) → k.printf = true) :
    Spells k (SingleQuoted.render word) word := by
  have hruns : ∀ r ∈ SingleQuoted.runs word,
      Spells k (SingleQuoted.renderRun r.1 r.2) r.2 := by
    intro r hr
    obtain ⟨hrne, hkind⟩ := SingleQuoted.mem_runs hr
    refine spells_renderRun hrne hkind fun hhigh => hk ?_
    rw [← hhigh]
    exact SingleQuoted.exists_kind_of_mem_runs hr
  have hspells := spells_flatMap (SingleQuoted.runs_ne_nil hne) hruns
  rw [SingleQuoted.flatMap_snd_runs] at hspells
  rw [SingleQuoted.render_eq_renderRuns]
  exact hspells

end ShellWord.Reading
