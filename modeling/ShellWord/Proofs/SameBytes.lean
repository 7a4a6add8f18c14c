import ShellWord.Proofs.Appending

/-!
# Same bytes, same quoting

What a source is made of matters only through its bytes, with one exception: a view whose bytes lie
scattered cannot be copied as it lies, so it is refused where the word would be written bare.
`Source.ScattersBare` names the exception. Two sources of the same bytes are quoted alike exactly if
it holds of both or of neither.
-/

namespace ShellWord.Source

variable {s t : Source} {d : Dialect} {word : Bytes}

/-- The bytes of the source lie scattered, and could be written bare. -/
def ScattersBare (s : Source) : Prop :=
  s.isScattered = true ∧ ∃ word, s.data = .ok word ∧ isBare word = true

/-- Two sources are quoted alike: each can stand for the other wherever a source is quoted, and the
outcome is the same. -/
structure QuotedAlike (s t : Source) : Prop where
  quotedBytes : ∀ d, s.quotedBytes d = t.quotedBytes d
  quoted : ∀ d, s.quoted d = t.quoted d
  append : ∀ (sink : Sink) d, sink.append s d = sink.append t d
  join : ∀ before after d, Source.join (before ++ s :: after) d = Source.join (before ++ t :: after) d

/-- The other operations quote a source through its quoted bytes. -/
theorem quotedAlike_of_quotedBytes (h : ∀ d, s.quotedBytes d = t.quotedBytes d) :
    QuotedAlike s t := by
  have hquoted (d : Dialect) : s.quoted d = t.quoted d := by rw [quoted, quoted, h]
  constructor
  case quotedBytes => exact h
  case quoted => exact hquoted
  case append =>
    intro sink d
    rw [Sink.append_eq_push, Sink.append_eq_push, Sink.push, Sink.push, h]
  case join =>
    intro before after d
    simp only [Source.join, List.mapM_append, List.mapM_cons, hquoted]

theorem zero_not_mem_of_isBare (h : isBare word = true) : 0 ∉ word := by
  intro hzero
  cases (isBare_iff.1 h).2 0 hzero

/-! ## What becomes of a source -/

theorem scattersBare_iff (hdata : s.data = .ok word) :
    s.ScattersBare ↔ s.isScattered = true ∧ d.form word = .bare := by
  rw [ScattersBare, Dialect.form_eq_bare_iff, hdata]
  simp

/-- A source is quoted as its bytes are, unless they lie scattered and could be written bare. -/
theorem quotedBytes_of_not_scattersBare (hdata : s.data = .ok word) (h : ¬ s.ScattersBare) :
    s.quotedBytes d = (d.quote word).mapError .nul := by
  rw [scattersBare_iff (d := d) hdata] at h
  simp only [quotedBytes, hdata, if_neg h]
  cases d.quote word <;> rfl

theorem quotedBytes_of_scattersBare (h : s.ScattersBare) :
    s.quotedBytes d = .error .scatteredCopy := by
  obtain ⟨_, word, hdata, hbare⟩ := id h
  rw [scattersBare_iff (d := d) hdata] at h
  simp only [quotedBytes, hdata, Dialect.quote_eq_write (zero_not_mem_of_isBare hbare), if_pos h]

theorem quotedBytes_ne_of_scattersBare (hs : s.ScattersBare) (hdata : t.data = .ok word)
    (ht : ¬ t.ScattersBare) : s.quotedBytes d ≠ t.quotedBytes d := by
  rw [quotedBytes_of_scattersBare hs, quotedBytes_of_not_scattersBare hdata ht]
  cases d.quote word <;> simp [Except.mapError]

/-- Sources of the same bytes are quoted alike exactly if both or neither of them scatter bytes that
could be written bare. One that does is refused as such, and any other gives the quoted word of the
bytes, or their zero byte as the error. -/
theorem quotedAlike_iff (hs : s.data = .ok word) (ht : t.data = .ok word) :
    (QuotedAlike s t ↔ (s.ScattersBare ↔ t.ScattersBare)) ∧
    (s.ScattersBare → ∀ d, s.quoted d = .error .scatteredCopy) ∧
    (¬ s.ScattersBare → ∀ d,
      s.quoted d = ((d.quote word).mapError .nul).map textOfAscii) := by
  refine ⟨⟨fun h => ⟨fun hscatters => ?_, fun hscatters => ?_⟩, fun h => ?_⟩,
    fun hscatters d => ?_, fun hscatters d => ?_⟩
  -- where only one of the two is refused, the outcomes differ
  · by_contra hother
    exact quotedBytes_ne_of_scattersBare hscatters ht hother (h.quotedBytes .bash)
  · by_contra hother
    exact quotedBytes_ne_of_scattersBare hscatters hs hother (h.quotedBytes .bash).symm
  · refine quotedAlike_of_quotedBytes fun d => ?_
    by_cases hscatters : s.ScattersBare
    · rw [quotedBytes_of_scattersBare hscatters, quotedBytes_of_scattersBare (h.1 hscatters)]
    · rw [quotedBytes_of_not_scattersBare hs hscatters,
        quotedBytes_of_not_scattersBare ht (mt h.2 hscatters)]
  · rw [quoted, quotedBytes_of_scattersBare hscatters]
    rfl
  · rw [quoted, quotedBytes_of_not_scattersBare hs hscatters]
    cases d.quote word <;> rfl

/-- A view of every second byte and a text, both of a word with a blank. -/
theorem quotedAlike_iff_blank :
    (view ⟨ascii "a- -b-", 1, true, some 2⟩).data = .ok (ascii "a b") ∧
    (text (Text.ofString "a b")).data = .ok (ascii "a b") ∧
    QuotedAlike (view ⟨ascii "a- -b-", 1, true, some 2⟩) (text (Text.ofString "a b")) := by
  have hview : (view ⟨ascii "a- -b-", 1, true, some 2⟩).data = .ok (ascii "a b") := by decide
  have htext : (text (Text.ofString "a b")).data = .ok (ascii "a b") := by cbv
  refine ⟨hview, htext, (quotedAlike_iff hview htext).1.2 ?_⟩
  rw [scattersBare_iff (d := .bash) hview, scattersBare_iff (d := .bash) htext]
  decide

/-- A view of every second byte is not quoted as its bytes are, if these need no quotes. -/
theorem not_quotedAlike_scattered_view :
    (view ⟨ascii "axbx", 1, true, some 2⟩).data = .ok (ascii "ab") ∧
    (bytes (ascii "ab")).data = .ok (ascii "ab") ∧
    ¬ QuotedAlike (view ⟨ascii "axbx", 1, true, some 2⟩) (bytes (ascii "ab")) := by
  refine ⟨by decide, by decide, fun h => ?_⟩
  have hrefused : (view ⟨ascii "axbx", 1, true, some 2⟩).quotedBytes .bash ≠
      (bytes (ascii "ab")).quotedBytes .bash := by decide
  exact hrefused (h.quotedBytes .bash)

end ShellWord.Source
