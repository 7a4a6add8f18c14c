import ShellWord.Proofs.Alphabet
import ShellWord.Proofs.Output

/-!
# Two ways to join words

Words are joined as text, by quoting each of them, decoding it and putting the texts side by side;
and they are joined by the command, in one buffer that each word is written to and with a call to
the log after each. The two give the same bytes, and they refuse the same words for the same zero
byte.
-/

namespace ShellWord

variable {words : List Bytes} {d : Dialect}

theorem IsAscii.intercalate_space {texts : List Bytes} (h : ∀ text ∈ texts, IsAscii text) :
    IsAscii (List.intercalate [0x20] texts) := by
  cases texts with
  | nil => exact isAscii_nil
  | cons text rest =>
    obtain ⟨htext, hrest⟩ := List.forall_mem_cons.1 h
    rw [intercalate_space_cons]
    exact htext.append (.flatMap fun t ht => isAscii_cons.2 ⟨by decide, hrest t ht⟩)

/-- The first word with a zero byte has its first one at this offset. -/
def FirstZeroAt (words : List Bytes) (offset : Nat) : Prop :=
  ∃ before pre post after, words = before ++ (pre ++ 0 :: post) :: after ∧
    (∀ word ∈ before, 0 ∉ word) ∧ 0 ∉ pre ∧ pre.length = offset

theorem exists_firstZeroAt_iff :
    (∃ offset, FirstZeroAt words offset) ↔ ∃ word ∈ words, 0 ∈ word := by
  constructor
  · rintro ⟨_, before, pre, post, after, rfl, -, -, -⟩
    exact ⟨pre ++ 0 :: post, by simp, by simp⟩
  · intro h
    obtain ⟨before, pre, post, after, hwords, hbefore, hpre⟩ := exists_first_nul h
    exact ⟨pre.length, before, pre, post, after, hwords, hbefore, hpre, rfl⟩

/-- The first zero byte is what the words are refused for, whatever stands behind it. -/
theorem FirstZeroAt.mapM_quote {offset : Nat} (h : FirstZeroAt words offset) (d : Dialect) :
    words.mapM d.quote = .error ⟨offset⟩ := by
  obtain ⟨before, pre, post, after, rfl, hbefore, hpre, rfl⟩ := h
  have hquoted : ∀ word ∈ before, ∃ q, d.quote word = .ok q := by
    intro word hword
    exact ⟨_, Dialect.quote_eq_write (hbefore word hword)⟩
  exact mapM_of_first_error hquoted (Dialect.quote_eq_error_of_first hpre d post)

/-- The text is that of what the command writes, and it is refused for what the command refuses. -/
theorem joinedText_eq_quoteWords (clock : Nat → String) (w : Journal.World) :
    Source.joinedText (words.map .bytes) d =
      ((Command.quoteWords clock d w words).2.mapError fun e => .earlier (.nul e)).map
        textOfAscii := by
  rw [Source.joinedText_eq, Source.join_bytes, Command.quoteWords_snd]
  cases words.mapM d.quote with
  | error e => rfl
  | ok quoted => simp only [Except.map, Except.mapError, textOfAscii_intercalate]

/-- Whatever the state of the log, the command joins words without a zero byte to the ASCII bytes of
the text that they are joined to. If some word has a zero byte, both ways to join refuse the words,
and both name the first zero byte of the first word that has one. -/
theorem joined_alike (d : Dialect) (words : List Bytes) :
    ((∀ word ∈ words, 0 ∉ word) →
      ∃ text out, Source.joinedText (words.map .bytes) d = .ok text ∧
        decodeAscii out = .ok text ∧ ascii text = out ∧
        ∀ clock w, (Command.quoteWords clock d w words).2 = .ok out) ∧
    ((∃ word ∈ words, 0 ∈ word) ↔ ∃ offset, FirstZeroAt words offset) ∧
    ∀ offset, FirstZeroAt words offset →
      Source.joinedText (words.map .bytes) d = .error (.earlier (.nul ⟨offset⟩)) ∧
        ∀ clock w, (Command.quoteWords clock d w words).2 = .error ⟨offset⟩ := by
  refine ⟨fun h => ?_, exists_firstZeroAt_iff.symm, fun offset h => ?_⟩
  · have hquoted (clock : Nat → String) (w : Journal.World) :
        (Command.quoteWords clock d w words).2 =
          .ok (List.intercalate [0x20] (words.map d.write)) := by
      rw [Command.quoteWords_snd, Dialect.mapM_quote h]
      rfl
    have hascii : IsAscii (List.intercalate [0x20] (words.map d.write)) := by
      refine .intercalate_space fun text htext => ?_
      obtain ⟨word, -, rfl⟩ := List.mem_map.1 htext
      exact Dialect.isAscii_write
    refine ⟨_, _, ?_, decodeAscii_of_isAscii hascii, ascii_textOfAscii _, hquoted⟩
    rw [joinedText_eq_quoteWords (fun _ => "") ⟨{}, {}⟩, hquoted]
    rfl
  · have hrefused (clock : Nat → String) (w : Journal.World) :
        (Command.quoteWords clock d w words).2 = .error ⟨offset⟩ := by
      rw [Command.quoteWords_snd, h.mapM_quote]
      rfl
    refine ⟨?_, hrefused⟩
    rw [joinedText_eq_quoteWords (fun _ => "") ⟨{}, {}⟩, hrefused]
    rfl

/-- Empty words at both ends; and a zero byte in the second word, before another in the third. -/
theorem joined_alike_empty_ends :
    (∀ word ∈ ([[], [0x20], []] : List Bytes), 0 ∉ word) ∧
    (∃ text, Source.joinedText (([[], [0x20], []] : List Bytes).map .bytes) .sh = .ok text ∧
      ∀ clock w, (Command.quoteWords clock .sh w [[], [0x20], []]).2 = .ok (ascii text)) ∧
    FirstZeroAt [[], [0x61, 0], [0]] 1 ∧
    Source.joinedText (([[], [0x61, 0], [0]] : List Bytes).map .bytes) .bash =
      .error (.earlier (.nul ⟨1⟩)) := by
  have hwords : ∀ word ∈ ([[], [0x20], []] : List Bytes), 0 ∉ word := by decide
  have hfirst : FirstZeroAt [[], [0x61, 0], [0]] 1 :=
    ⟨[[]], [0x61], [], [[0]], rfl, by decide, by decide, rfl⟩
  obtain ⟨text, out, htext, -, rfl, hout⟩ := (joined_alike .sh _).1 hwords
  exact ⟨hwords, ⟨text, htext, hout⟩, hfirst, ((joined_alike .bash _).2.2 1 hfirst).1⟩

end ShellWord
