import ShellWord.Proofs.Decoding

/-!
# Which text has bytes

Text is encoded a run of surrogates at a time, and yet what becomes of it can be said code point by
code point. Characters and escapes stand for bytes wherever they are; the first surrogate that is
neither stops the encoding, and is reported together with the rest of its run.
-/

namespace ShellWord

namespace Utf8

variable {text before run rest : Text} {bad c : CodePoint}

/-- All code points of the text stand for bytes: they are characters or escapes. -/
def IsEncodable (text : Text) : Prop := ∀ c ∈ text, c.isSurrogate = true → c.isEscape = true

instance (text : Text) : Decidable (IsEncodable text) :=
  inferInstanceAs (Decidable (∀ c ∈ text, _))

/-- The encoding of a text stops at a surrogate: all before it can be encoded, and it cannot. A run
of surrogates goes on behind it, as far as it can. -/
structure StopsAt (text before : Text) (bad : CodePoint) (run rest : Text) : Prop where
  whole : text = before ++ bad :: (run ++ rest)
  encodable : IsEncodable before
  isSurrogate : bad.isSurrogate = true
  not_isEscape : bad.isEscape = false
  surrogates : ∀ c ∈ run, c.isSurrogate = true
  maximal : ∀ c ∈ rest.head?, c.isSurrogate = false

/-- At a surrogate that is no escape, the whole run from there on is reported. -/
theorem encodeFrom_bad (h : StopsAt text [] bad run rest) (start : Nat) :
    encodeFrom start text = .error ⟨start, start + (bad :: run).length, bad⟩ := by
  have hsurrogates : ∀ c ∈ bad :: run, c.isSurrogate = true :=
    List.forall_mem_cons.2 ⟨h.isSurrogate, h.surrogates⟩
  have hstop : (bad :: run).dropWhile CodePoint.isEscape = bad :: run :=
    List.dropWhile_cons_of_neg (by simp [h.not_isEscape])
  have hrun := encodeFrom_run hsurrogates h.maximal start
  rw [hstop] at hrun
  rw [h.whole]
  simpa using hrun

theorem StopsAt.tail (h : StopsAt text (c :: before) bad run rest) :
    StopsAt (before ++ bad :: (run ++ rest)) before bad run rest :=
  { h with whole := rfl, encodable := (List.forall_mem_cons.1 h.encodable).2 }

theorem StopsAt.encodeFrom_eq (h : StopsAt text before bad run rest) (start : Nat) :
    encodeFrom start text =
      .error ⟨start + before.length, start + before.length + (bad :: run).length, bad⟩ := by
  induction before generalizing text start with
  | nil => exact encodeFrom_bad h start
  | cons c more ih =>
    -- also inside a run of surrogates, what comes first is encoded by itself
    have hc := (List.forall_mem_cons.1 h.encodable).1
    rw [h.whole, List.cons_append, encodeFrom_cons hc, ih h.tail (start + 1), List.length_cons,
      Nat.add_assoc start, Nat.add_comm 1]
    rfl

theorem exists_stopsAt (h : ¬ IsEncodable text) :
    ∃ before bad run rest, StopsAt text before bad run rest := by
  have hsome : (text.find? fun c => c.isSurrogate && !c.isEscape).isSome := by
    rw [List.find?_isSome]
    simpa [IsEncodable] using h
  obtain ⟨bad, hfind⟩ := Option.isSome_iff_exists.1 hsome
  obtain ⟨hbad, before, after, rfl, hbefore⟩ := List.find?_eq_some_iff_append.1 hfind
  obtain ⟨hsurrogate, hescape⟩ : bad.isSurrogate = true ∧ bad.isEscape = false := by
    simpa using hbad
  refine ⟨before, bad, after.takeWhile CodePoint.isSurrogate,
    after.dropWhile CodePoint.isSurrogate, ?_, ?_, hsurrogate, hescape, ?_,
    isSurrogate_of_mem_head?_dropWhile after⟩
  · rw [List.takeWhile_append_dropWhile]
  · intro c hc hcsurrogate
    simpa [hcsurrogate] using hbefore c hc
  · intro c hc
    exact List.mem_takeWhile_imp hc

/-! ## One code point -/

theorem exists_ofChar (h : c.isSurrogate = false) : ∃ char, c = CodePoint.ofChar char := by
  have hvalid : c.val.isValidChar := by
    have hrange := c.inRange
    simp only [CodePoint.isSurrogate, Bool.and_eq_false_iff, decide_eq_false_iff_not] at h
    omega
  refine ⟨Char.ofNat c.val, ?_⟩
  rw [CodePoint.ofChar, toNat_ofNat_of_isValidChar hvalid, CodePoint.ofNat, dif_pos c.inRange]

theorem pointBytes_of_isEscape (h : c.isEscape = true) :
    ∃ b : UInt8, pointBytes c = [b] ∧ b.toNat = c.val - 0xDC00 := by
  refine ⟨unescape c, by rw [pointBytes, if_pos (isSurrogate_of_isEscape h)], ?_⟩
  simp only [CodePoint.isEscape, Bool.and_eq_true, decide_eq_true_eq] at h
  exact UInt8.toNat_ofNat_of_lt' (show _ < 0x100 by omega)

/-! ## Sources -/

/-- Text has bytes exactly if each of its surrogates is an escape. Its bytes are those of its code
points, one after another: a character has those that the standard gives it, and an escape has the
one byte that it stands for. Any other text is refused, from its first surrogate that is no escape
to the end of the run of surrogates which that one is in. -/
theorem data_text_iff (text : Text) :
    (∀ data, Source.data (.text text) = .ok data ↔
      IsEncodable text ∧ data = text.flatMap pointBytes) ∧
    (∀ e, Source.data (.text text) = .error e ↔
      ∃ before bad run rest, StopsAt text before bad run rest ∧
        e = .unencodable ⟨before.length, before.length + (bad :: run).length, bad⟩) ∧
    ∀ c : CodePoint,
      (c.isSurrogate = false →
        ∃ char, c = CodePoint.ofChar char ∧ pointBytes c = String.utf8EncodeChar char) ∧
      (c.isEscape = true → ∃ b : UInt8, pointBytes c = [b] ∧ b.toNat = c.val - 0xDC00) := by
  have hok (h : IsEncodable text) : Source.data (.text text) = .ok (text.flatMap pointBytes) := by
    rw [Source.data, Source.encodeText, encode, encodeFrom_eq_flatMap 0 text h]
  have herror {before run rest : Text} {bad : CodePoint} (h : StopsAt text before bad run rest) :
      Source.data (.text text) =
        .error (.unencodable ⟨before.length, before.length + (bad :: run).length, bad⟩) := by
    rw [Source.data, Source.encodeText, encode, h.encodeFrom_eq 0, Nat.zero_add]
  refine ⟨fun data => ⟨fun hdata => ?_, ?_⟩, fun e => ⟨fun hdata => ?_, ?_⟩, fun c => ⟨?_, ?_⟩⟩
  · by_cases htext : IsEncodable text
    · rw [hok htext] at hdata
      cases hdata
      exact ⟨htext, rfl⟩
    · obtain ⟨before, bad, run, rest, hstop⟩ := exists_stopsAt htext
      rw [herror hstop] at hdata
      cases hdata
  · rintro ⟨htext, rfl⟩
    exact hok htext
  · by_cases htext : IsEncodable text
    · rw [hok htext] at hdata
      cases hdata
    · obtain ⟨before, bad, run, rest, hstop⟩ := exists_stopsAt htext
      rw [herror hstop] at hdata
      cases hdata
      exact ⟨before, bad, run, rest, hstop, rfl⟩
  · rintro ⟨before, bad, run, rest, hstop, rfl⟩
    exact herror hstop
  · intro hc
    obtain ⟨char, rfl⟩ := exists_ofChar hc
    exact ⟨char, rfl, pointBytes_ofChar char⟩
  · exact pointBytes_of_isEscape

/-- The escape before the surrogate that is refused is passed over, and the one behind it is not. -/
theorem data_text_iff_mixed_run :
    Source.data (.text [{ val := 0xDC80 }, CodePoint.ofChar 'a', { val := 0xDCFF },
        { val := 0xD800 }, { val := 0xDC80 }, CodePoint.ofChar 'b']) =
      .error (.unencodable ⟨3, 5, { val := 0xD800 }⟩) := by
  have hstop : StopsAt [{ val := 0xDC80 }, CodePoint.ofChar 'a', { val := 0xDCFF },
      { val := 0xD800 }, { val := 0xDC80 }, CodePoint.ofChar 'b']
      [{ val := 0xDC80 }, CodePoint.ofChar 'a', { val := 0xDCFF }] { val := 0xD800 }
      [{ val := 0xDC80 }] [CodePoint.ofChar 'b'] :=
    ⟨rfl, by decide, rfl, rfl, by decide, by decide⟩
  exact ((data_text_iff _).2.1 _).2 ⟨_, _, _, _, hstop, rfl⟩

end Utf8

end ShellWord
