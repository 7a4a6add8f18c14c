import ShellWord.Proofs.Appending
import ShellWord.Proofs.Places
import ShellWord.Source.Decoding

/-!
# The alphabet of quoted words

Written for bash, a word becomes printable ASCII. Written without escapes it becomes ASCII in which
the control bytes of the word, and only these, appear as they are, inside single quotes. So quoted
words can be decoded as ASCII wherever text is asked for, and nothing more can fail there.
-/

namespace ShellWord

/-- A byte below the printable ones, or the one right after them. -/
def isControl (b : UInt8) : Bool := b < 0x20 || b = 0x7F

variable {word data quoted pre post : Bytes} {b : UInt8}

/-! ## Control bytes -/

theorem filter_isControl_of_isPrintable (h : IsPrintable data) : data.filter isControl = [] := by
  refine List.filter_eq_nil_iff.2 fun b hb => ?_
  have hbounds := h b hb
  rw [isControl]
  grind

theorem class_ne_bare_of_isControl (h : isControl b = true) : ByteClass.of b ≠ .bare := by
  intro hbare
  have hbounds := printable_of_class (b := b) (by simp [hbare]) (by simp [hbare]) (by simp [hbare])
  rw [isControl] at h
  grind

namespace SingleQuoted

theorem kind_of_isControl (h : isControl b = true) : Kind.of b = .verbatim := by
  cases hkind : Kind.of b with
  | high =>
    have hhigh := kind_eq_high_iff.1 hkind
    rw [isControl] at h
    grind
  | quote =>
    rw [kind_eq_quote_iff.1 hkind] at h
    cases h
  | verbatim => rfl

/-- A run is written with its control bytes, and no others. -/
theorem filter_isControl_renderRun {k : Kind} {run : Bytes} (h : ∀ b ∈ run, Kind.of b = k) :
    (renderRun k run).filter isControl = run.filter isControl := by
  by_cases hk : k = .verbatim
  · subst hk
    simp [renderRun, isControl]
  · have hrun : run.filter isControl = [] := by
      refine List.filter_eq_nil_iff.2 fun b hb hcontrol => hk ?_
      rw [← h b hb, kind_of_isControl hcontrol]
    rw [hrun]
    refine filter_isControl_of_isPrintable ?_
    cases k with
    | high => exact isPrintable_printfGroup run
    | quote => exact isPrintable_quotes run
    | verbatim => exact absurd rfl hk

theorem filter_isControl_render (word : Bytes) :
    (render word).filter isControl = word.filter isControl := by
  calc (render word).filter isControl
      = (runs word).flatMap fun r => (renderRun r.1 r.2).filter isControl := by
        rw [render_eq_renderRuns, renderRuns, List.filter_flatMap]
    _ = (runs word).flatMap fun r => r.2.filter isControl :=
        List.flatMap_congr fun r hr => filter_isControl_renderRun (mem_runs hr).2
    _ = ((runs word).flatMap Prod.snd).filter isControl := List.filter_flatMap.symm
    _ = word.filter isControl := by rw [flatMap_snd_runs]

end SingleQuoted

theorem Dialect.filter_isControl_write_sh (word : Bytes) :
    (sh.write word).filter isControl = word.filter isControl := by
  rw [write]
  rcases form_sh_cases word with ⟨hform, rfl⟩ | ⟨hform, _⟩ | hform
  · rw [hform]
    decide
  · rw [hform, Form.render]
  · rw [hform]
    exact SingleQuoted.filter_isControl_render word

/-- A control byte stands inside single quotes: substitutions are printable. -/
theorem Reading.inSingleQuotes_of_isControl {k : Constructs} (hk : k.printf = true)
    (hb : isControl b = true) (h : Dialect.sh.write word = pre ++ b :: post) :
    InSingleQuotes k pre post := by
  have hquote : b ≠ 0x27 := by
    rintro rfl
    cases hb
  have hslash : b ≠ 0x5C := by
    rintro rfl
    cases hb
  rcases place_in_write_sh hk (class_ne_bare_of_isControl hb) hquote hslash h with
    hplace | ⟨run, inner, rest, _, hgroup, _⟩
  · exact hplace
  · have hnone := filter_isControl_of_isPrintable (isPrintable_printfGroup run)
    have hmem : b ∈ SingleQuoted.printfGroup run := by simp [hgroup]
    exact absurd hb (List.filter_eq_nil_iff.1 hnone b hmem)

/-! ## Decoding -/

theorem asciiCharsFrom_of_isAscii (h : IsAscii data) (offset : Nat) :
    asciiCharsFrom offset data = .ok (data.map fun b => Char.ofNat b.toNat) := by
  induction data generalizing offset with
  | nil => rfl
  | cons b rest ih =>
    obtain ⟨hb, hrest⟩ := isAscii_cons.1 h
    rw [asciiCharsFrom, if_pos hb, ih hrest]
    rfl

theorem decodeAscii_of_isAscii (h : IsAscii data) : decodeAscii data = .ok (textOfAscii data) := by
  rw [decodeAscii, asciiCharsFrom_of_isAscii h]
  rfl

/-- Decoding adds no way to fail. -/
theorem Source.quotedText_eq (source : Source) (d : Dialect) :
    source.quotedText d = (source.quoted d).mapError .earlier := by
  rw [quotedText, quoted]
  cases hquoted : source.quotedBytes d with
  | error e => rfl
  | ok quoted =>
    have hdecode := decodeAscii_of_isAscii (isAscii_of_quotedBytes hquoted)
    simp [hdecode, bind, Except.bind, pure, Except.pure, Except.mapError]

theorem Source.joinedText_eq (words : List Source) (d : Dialect) :
    joinedText words d = (join words d).mapError .earlier := by
  simp only [joinedText, join, quotedText_eq, mapM_mapError]
  cases words.mapM fun w => w.quoted d <;> rfl

theorem Sink.acceptText_eq (h : IsAscii word) (sink : Sink) :
    sink.acceptText word = (sink.accept word).mapError .earlier := by
  have hdecode := decodeAscii_of_isAscii h
  cases sink with
  | buffer | byteStream => rfl
  | list | textStream =>
    simp only [acceptText, accept, hdecode]
    rfl
  | writer mode writes =>
    simp only [acceptText, accept, hdecode]
    cases mode.takesText with
    | error e => rfl
    | ok text => cases text <;> rfl

/-- The sink that is left is the same, and so is the outcome. -/
theorem Sink.appendText_eq (sink : Sink) (source : Source) (d : Dialect) :
    sink.appendText source d =
      ((sink.append source d).1, (sink.append source d).2.mapError .earlier) := by
  rw [appendText, append]
  cases hdata : source.data with
  | error e => rfl
  | ok word =>
    simp only [Dialect.runOn_writing hdata]
    cases hquoted : source.quotedBytes d with
    | error e => cases sink <;> rfl
    | ok quoted =>
      have haccept := acceptText_eq (Source.isAscii_of_quotedBytes hquoted) sink
      cases sink with
      | buffer => rfl
      | list | textStream | byteStream | writer =>
        simp only [List.nil_append, haccept]
        cases accept quoted _ <;> rfl

/-! ## What quoted words consist of -/

theorem mapError_earlier_ne {ε α : Type} (x : Except ε α) (e : NotAscii) :
    x.mapError DecodingError.earlier ≠ .error (.notAscii e) := by
  cases x <;> simp [Except.mapError]

theorem Source.quotedText_eq_ok_iff {source : Source} {d : Dialect} {text : String} :
    source.quotedText d = .ok text ↔
      ∃ quoted, source.quotedBytes d = .ok quoted ∧ textOfAscii quoted = text := by
  rw [quotedText_eq, quoted]
  cases source.quotedBytes d <;> simp [Except.mapError, bind, Except.bind, pure, Except.pure]

/-- A word quoted for bash is printable. A word quoted without escapes is ASCII; its control bytes
are those of the word, in their order, and each of them stands inside single quotes. So decoding
never fails, whatever is quoted, and a quoted text is the text of the quoted bytes. -/
theorem quoted_alphabet :
    (∀ word, 0 ∉ word → ∃ quoted, Dialect.bash.quote word = .ok quoted ∧ IsPrintable quoted) ∧
    (∀ word, 0 ∉ word → ∃ quoted, Dialect.sh.quote word = .ok quoted ∧ IsAscii quoted ∧
      quoted.filter isControl = word.filter isControl ∧
      ∀ pre b post, quoted = pre ++ b :: post → isControl b = true →
        Reading.InSingleQuotes (.ofDialect .sh) pre post) ∧
    (∀ source d e, Source.quotedText source d ≠ .error (.notAscii e)) ∧
    (∀ sources d e, Source.joinedText sources d ≠ .error (.notAscii e)) ∧
    (∀ sink source d e, (Sink.appendText sink source d).2 ≠ .error (.notAscii e)) ∧
    (∀ source d text, Source.quotedText source d = .ok text ↔
      ∃ quoted, source.quotedBytes d = .ok quoted ∧ textOfAscii quoted = text) := by
  refine ⟨fun word hzero => ?_, fun word hzero => ?_, fun source d e => ?_, fun sources d e => ?_,
    fun sink source d e => ?_, fun source d text => Source.quotedText_eq_ok_iff⟩
  · exact ⟨_, Dialect.quote_eq_write hzero, Dialect.isPrintable_write_bash hzero⟩
  · refine ⟨_, Dialect.quote_eq_write hzero, Dialect.isAscii_write,
      Dialect.filter_isControl_write_sh word, fun pre b post hquoted hb => ?_⟩
    exact Reading.inSingleQuotes_of_isControl rfl hb hquoted
  · rw [Source.quotedText_eq]
    exact mapError_earlier_ne _ e
  · rw [Source.joinedText_eq]
    exact mapError_earlier_ne _ e
  · rw [Sink.appendText_eq]
    exact mapError_earlier_ne _ e

/-- A newline stays as it is between single quotes, and a high byte next to it does not. -/
theorem quoted_alphabet_newline_high :
    0 ∉ ([0x0A, 0xFF] : Bytes) ∧
    ∃ quoted, Dialect.sh.quote [0x0A, 0xFF] = .ok quoted ∧ IsAscii quoted ∧
      quoted.filter isControl = [0x0A] := by
  have hzero : 0 ∉ ([0x0A, 0xFF] : Bytes) := by decide
  obtain ⟨quoted, hquoted, hascii, hcontrol, _⟩ := quoted_alphabet.2.1 [0x0A, 0xFF] hzero
  refine ⟨hzero, quoted, hquoted, hascii, ?_⟩
  rw [hcontrol]
  decide

end ShellWord
