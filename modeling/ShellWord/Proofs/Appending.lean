import ShellWord.Proofs.Ascii
import ShellWord.Proofs.Sequence
import ShellWord.Proofs.WordList
import ShellWord.Source.InPlace

/-!
# Appending is exact and atomic

Writing in place either adds the whole quoted word to the buffer or fails before the first byte, so
it agrees with quoting first and adding the word afterwards. Over any sequence of calls, a sink
gains the words of the calls that succeed, and a call that fails leaves no trace.
-/

namespace ShellWord

/-! ## Procedures that write -/

namespace Writing

variable {α β : Type}

@[simp]
theorem runOn_piece (data buffer : Bytes) :
    (piece data).runOn buffer = (.ok (), buffer ++ data) := rfl

@[simp]
theorem runOn_throw (e : QuoteError) (buffer : Bytes) :
    runOn (throw e : Writing α) buffer = (.error e, buffer) := rfl

theorem runOn_bind {x : Writing α} {f : α → Writing β} {buffer written : Bytes} {a : α}
    (h : x.runOn buffer = (.ok a, written)) : (x >>= f).runOn buffer = (f a).runOn written := by
  simp only [runOn, ExceptT.run_bind, StateT.run_bind] at h ⊢
  rw [h]
  rfl

/-- A procedure that cannot fail and writes exactly these bytes. -/
def Writes (x : Writing Unit) (data : Bytes) : Prop :=
  ∀ buffer, x.runOn buffer = (.ok (), buffer ++ data)

theorem writes_piece (data : Bytes) : Writes (piece data) data := fun _ => rfl

theorem Writes.andThen {x y : Writing Unit} {data more : Bytes} (hx : Writes x data)
    (hy : Writes y more) : Writes (do x; y) (data ++ more) := by
  intro buffer
  rw [runOn_bind (hx buffer), hy, List.append_assoc]

end Writing

open Writing (Writes writes_piece)

theorem EscapeQuoted.writes (word : Bytes) : Writes (writing word) (render word) := by
  rw [render, List.append_assoc]
  exact (writes_piece _).andThen ((writes_piece _).andThen (writes_piece _))

/-- From any state on, the bytes are written that the pass gives out. -/
theorem SingleQuoted.writes (s : State) (word : Bytes) :
    Writes (writingFrom s word) (renderFrom s word) := by
  induction word generalizing s with
  | nil => exact (writes_piece _).andThen (writes_piece _)
  | cons b rest ih => exact (writes_piece _).andThen (ih _)

/-- A form is written whole, unless it is to copy a scattered word. -/
theorem Form.writes {f : Form} {scattered : Bool} (h : ¬ (scattered = true ∧ f = .bare))
    (word : Bytes) : Writes (f.writing scattered word) (f.render word) := by
  cases f with
  | empty => exact writes_piece _
  | bare =>
    have hscattered : scattered = false := by simpa using h
    rw [writing, hscattered]
    exact writes_piece _
  | escapeQuoted => exact EscapeQuoted.writes word
  | singleQuoted => exact SingleQuoted.writes .start word

/-! ## One call -/

section

variable {source : Source} {d : Dialect} {word : Bytes}

/-- Written in place, a source adds its quoted word to the buffer, or nothing at all. -/
theorem Dialect.runOn_writing (hdata : source.data = .ok word) (buffer : Bytes) :
    (d.writing source.isScattered word).runOn buffer =
      match source.quotedBytes d with
      | .ok quoted => (.ok (), buffer ++ quoted)
      | .error e => (.error e, buffer) := by
  simp only [writing, Source.quotedBytes, hdata, quote]
  cases hnul : checkNoNul word with
  | error e => rfl
  | ok _ =>
    by_cases hcopy : source.isScattered = true ∧ d.form word = .bare
    · simp [hcopy, Form.writing, bind, Except.bind, pure, Except.pure]
    · rw [Form.writes hcopy word buffer]
      simp [hcopy, write, bind, Except.bind, pure, Except.pure]

theorem Source.quote_of_quotedBytes {quoted : Bytes} (h : source.quotedBytes d = .ok quoted) :
    ∃ word, source.data = .ok word ∧ d.quote word = .ok quoted := by
  rw [quotedBytes] at h
  split at h
  · cases h
  · next word hdata =>
    split at h
    · cases h
    · next hquote =>
      split_ifs at h
      cases h
      exact ⟨word, hdata, hquote⟩

theorem Source.isAscii_of_quotedBytes {quoted : Bytes} (h : source.quotedBytes d = .ok quoted) :
    IsAscii quoted := by
  obtain ⟨word, _, hquote⟩ := quote_of_quotedBytes h
  exact Dialect.isAscii_quote hquote

namespace Sink

/-- Appending in place does what quoting first and adding the word afterwards does, and leaves the
sink alone when it fails. -/
theorem append_eq_push (sink : Sink) (source : Source) (d : Dialect) :
    sink.append source d =
      match sink.push source d with
      | .ok after => (after, .ok ())
      | .error e => (sink, .error e) := by
  rw [append, push]
  cases hdata : source.data with
  | error e => simp [Source.quotedBytes, hdata]
  | ok word =>
    simp only [Dialect.runOn_writing hdata]
    cases hquoted : source.quotedBytes d with
    | error e => cases sink <;> rfl
    | ok quoted =>
      cases sink with
      | buffer content => rfl
      | list | textStream | byteStream => rfl
      | writer mode writes => rfl

end Sink

end

/-! ## A sequence of calls -/

namespace Sink

/-- The quoted words of the calls that succeed, in order. -/
def gained (calls : List (Source × Dialect)) : List Bytes :=
  calls.filterMap fun call => (call.1.quotedBytes call.2).toOption

/-- What becomes of each call, which only its source and its dialect decide. -/
def outcomes (calls : List (Source × Dialect)) : List (Except PushError Unit) :=
  calls.map fun call => ((call.1.quotedBytes call.2).map fun _ => ()).mapError .quote

/-- If sinks of one kind take every word, then over any calls they gain the words of those that
succeed. -/
theorem appendAll_of_accept {σ : Type} (kind : σ → Sink) (add : σ → Bytes → σ)
    (h : ∀ content word, (kind content).accept word = .ok (kind (add content word)))
    (content : σ) (calls : List (Source × Dialect)) :
    (kind content).appendAll calls = (kind ((gained calls).foldl add content), outcomes calls) := by
  induction calls generalizing content with
  | nil => rfl
  | cons call rest ih =>
    obtain ⟨source, d⟩ := call
    rw [appendAll, append_eq_push, push]
    cases hquoted : source.quotedBytes d with
    | error e => simp [ih, gained, outcomes, hquoted, Except.toOption, Except.map, Except.mapError]
    | ok quoted =>
      simp [h, ih, gained, outcomes, hquoted, Except.toOption, Except.map, Except.mapError]

end Sink

end ShellWord
