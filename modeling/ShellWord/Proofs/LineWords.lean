import ShellWord.Proofs.Appending
import ShellWord.Proofs.LineTokens
import ShellWord.Proofs.RoundTrip
import ShellWord.ShellLine.Dump
import Mathlib

/-!
# A quoted word is one word of a command

A line of words alone is one simple command, which has these words. So a command name and a quoted
word are a command of two words, whatever the word is, as long as the text of the word can be read.
-/

namespace ShellWord.ShellLine

variable {v : RawWord} {ws : List RawWord}

/-! ## Lines of words -/

/-- Once the command has a name, all words that follow are its words. -/
theorem simpleFrom_words {n : Nat} {done : Simple} (hfresh : done.fresh = false)
    (hn : ws.length < n) :
    simpleFrom n done (ws.map Token.word ++ [.finish]) =
      some (⟨done.words ++ ws, done.expanded ++ ws, ws.foldl (fun _ w => w.stop) done.stop, false⟩,
        [.finish]) := by
  induction ws generalizing n done with
  | nil =>
    cases n with
    | zero => cases hn
    | succ n =>
      obtain ⟨words, expanded, stop, fresh⟩ := done
      cases hfresh
      simp [simpleFrom, beginsRedirection]
  | cons w more ih =>
    cases n with
    | zero => cases hn
    | succ n =>
      have hmore : more.length < n := Nat.lt_of_succ_lt_succ hn
      have hnamed : (⟨done.words ++ [w], done.expanded ++ [w], w.stop, false⟩ : Simple).fresh =
          false := rfl
      rw [List.map_cons, List.cons_append, simpleFrom]
      simp [hfresh, ih hnamed hmore]

theorem simple?_words (hassign : isAssignment v.text = false) (ws : List RawWord) :
    simple? (.word v :: (ws.map Token.word ++ [.finish])) =
      some (⟨.command, ws.foldl (fun _ w => w.stop) v.stop, v :: ws, v :: ws⟩, [.finish]) := by
  have hrest : simpleFrom (ws.length + 2) ⟨[v], [v], v.stop, false⟩
      (ws.map Token.word ++ [.finish]) = some (⟨v :: ws, v :: ws, _, false⟩, [.finish]) :=
    simpleFrom_words rfl (by omega)
  simp [simple?, simpleFrom, hassign, hrest]

theorem command_words (hreserved : reserved? (.word v) = none)
    (hassign : isAssignment v.text = false) (ws : List RawWord) (n : Nat) :
    command (n + 1) (.word v :: (ws.map Token.word ++ [.finish])) =
      some (⟨.command, ws.foldl (fun _ w => w.stop) v.stop, v :: ws, v :: ws⟩, [.finish]) := by
  have hsimple := simple?_words hassign ws
  cases ws with
  | nil => simpa [command, hreserved] using hsimple
  | cons w more => simpa [command, hreserved] using hsimple

theorem text_ne_of_reserved? (hreserved : reserved? (.word v) = none) :
    ∀ r ∈ reservedWords, v.text ≠ r.toList := by
  intro r hr htext
  have hne := List.find?_eq_none.1 hreserved r hr
  simp [htext] at hne

theorem items_words (hreserved : reserved? (.word v) = none)
    (hassign : isAssignment v.text = false) (ws : List RawWord) (n : Nat) :
    items (n + 4) false (.word v :: (ws.map Token.word ++ [.finish])) =
      some ([⟨.command, ws.foldl (fun _ w => w.stop) v.stop, v :: ws, v :: ws⟩], [.finish]) := by
  have hcommand := command_words hreserved hassign ws n
  have hpipes : pipes (n + 2) (.word v :: (ws.map Token.word ++ [.finish])) =
      some ([⟨.command, ws.foldl (fun _ w => w.stop) v.stop, v :: ws, v :: ws⟩], [.finish]) := by
    simp only [pipes, hcommand, Option.bind_eq_bind, Option.bind_some]
    rfl
  have htext := text_ne_of_reserved? hreserved
  have hmarks : ¬ (v.text = ['!'] ∨ v.text = "time".toList) := by
    rintro (hmark | hmark)
    · exact htext "!" (by decide) hmark
    · exact htext "time" (by decide) hmark
  have hpipeline : pipeline (n + 3) (.word v :: (ws.map Token.word ++ [.finish])) =
      some (⟨.command, ws.foldl (fun _ w => w.stop) v.stop, v :: ws, v :: ws⟩, [.finish]) := by
    simp only [pipeline, hmarks, if_false, hpipes, Option.bind_eq_bind, Option.bind_some]
    rfl
  simp only [items, hpipeline, Option.bind_eq_bind, Option.bind_some]
  rfl

/-- A line of words is one simple command, unless the first word has a meaning of its own. -/
theorem readUnit_words (hreserved : reserved? (.word v) = none)
    (hassign : isAssignment v.text = false) (ws : List RawWord) :
    readUnit (.word v :: (ws.map Token.word ++ [.finish])) =
      some (some ⟨.command, ws.foldl (fun _ w => w.stop) v.stop, v :: ws, v :: ws⟩) := by
  obtain ⟨n, hbound⟩ : ∃ n, stepBound (.word v :: (ws.map Token.word ++ [.finish])) = n + 4 :=
    ⟨_, rfl⟩
  have hitems := items_words hreserved hassign ws n
  simp only [readUnit, hbound, hitems, Option.bind_eq_bind, Option.bind_some]
  rfl

/-- A line that one simple command fills is read as the words of this command. -/
theorem commandWords_of_readUnit {line : String} {node : Node} (hne : line.toList ≠ [])
    (hunit : readUnit (tokens 0 line.toList) = some (some node))
    (hstop : line.toList.length ≤ node.stop) (hkind : node.kind = .command)
    (hexpanded : node.expanded = node.words) :
    commandWords line = node.words.mapM expandWord := by
  have hrest : line.toList.drop (node.stop + 1 - 0) = [] := by
    rw [List.drop_eq_nil_iff]
    omega
  have hend : nodesFrom line.toList.length (node.stop + 1) [] = .ok [] := by
    cases line.toList.length <;> rfl
  have hempty : line.toList.isEmpty = false := by simpa using hne
  rw [commandWords, nodesFrom, hempty, hunit]
  simp only [hrest, hend, hexpanded]
  cases hwords : node.words.mapM expandWord with
  | error e => rfl
  | ok words => simp [hkind, hwords, bind, Except.bind, pure, Except.pure]

/-! ## A command name and a quoted word -/

/-- The words of the line are those of the command, and only the second can fail to be read. -/
theorem commandWords_printf {text : List Char} (hclosed : IsClosed text)
    (hbegins : BeginsWord text) :
    commandWords ("printf " ++ String.ofList text) =
      (expandWord ⟨text, 7, 7 + text.length⟩).map fun w => [⟨"printf", 0, 6⟩, w] := by
  have hline : ("printf " ++ String.ofList text).toList = "printf".toList ++ ' ' :: text := by
    simp
  have hunit := readUnit_words (v := ⟨"printf".toList, 0, 6⟩) (by decide) (by decide)
    [⟨text, 7, 7 + text.length⟩]
  have hlength : ("printf " ++ String.ofList text).toList.length ≤ 7 + text.length := by
    simp
    omega
  have hprintf : expandWord ⟨"printf".toList, 0, 6⟩ = .ok ⟨"printf", 0, 6⟩ := by
    decide
  rw [commandWords_of_readUnit (by simp)
    (by rw [hline, tokens_printf hclosed hbegins]; exact hunit) hlength rfl rfl,
    List.mapM_cons, List.mapM_cons, hprintf]
  cases expandWord ⟨text, 7, 7 + text.length⟩ <;> rfl

section

variable {d : Dialect} {argument : Text} {q : String} {words : List CommandWord}

theorem commandWords_write {word : Bytes}
    (h : commandWords ("printf " ++ textOfAscii (d.write word)) = .ok words) :
    ∃ text, words = [⟨"printf", 0, 6⟩, ⟨text, 7, 7 + (textOfAscii (d.write word)).length⟩] := by
  have hline : textOfAscii (d.write word) = String.ofList (lineChars (d.write word)) := rfl
  rw [hline, commandWords_printf (isClosed_write d word) (beginsWord_write d word), expandWord] at h
  rw [hline, String.length_ofList]
  cases htext : wordText (lineChars (d.write word)) with
  | ok text =>
    simp only [htext, Except.map, Except.ok.injEq] at h
    exact ⟨String.ofList text, h.symm⟩
  | error e =>
    rw [htext] at h
    cases e <;> cases h

theorem exists_write_of_quoted (h : (Source.text argument).quoted d = .ok q) :
    ∃ word, textOfAscii (d.write word) = q := by
  rw [Source.quoted] at h
  obtain ⟨quoted, hquoted, hq⟩ := bind_eq_ok_iff.1 h
  obtain ⟨word, -, hquote⟩ := Source.quote_of_quotedBytes hquoted
  have hnul : 0 ∉ word := by
    intro hmem
    obtain ⟨e, he⟩ := Dialect.quote_eq_error (d := d) hmem
    cases hquote.symm.trans he
  rw [Dialect.quote_eq_write hnul] at hquote
  cases hquote
  cases hq
  exact ⟨word, rfl⟩

/-- One word was given and one word is shown, if any is. -/
theorem dumpWord_of_words (hq : (Source.text argument).quoted d = .ok q)
    (hwords : commandWords ("printf " ++ q) = .ok words) :
    ∃ text, words = [⟨"printf", 0, 6⟩, ⟨text, 7, 7 + q.length⟩] ∧
      dumpWord d argument =
        ⟨.ok 0,
          linesText (s!"Quoted ({d.name}): {q}" :: wordLines 1 [⟨text, 7, 7 + q.length⟩])⟩ := by
  obtain ⟨word, rfl⟩ := exists_write_of_quoted hq
  obtain ⟨text, rfl⟩ := commandWords_write hwords
  refine ⟨text, rfl, ?_⟩
  simp [dumpWord, hq, hwords]

theorem dumpWord_status (h : (dumpWord d argument).ending = .ok 1) :
    ∃ q, (Source.text argument).quoted d = .ok q ∧
      (dumpWord d argument).output = linesText [s!"Quoted ({d.name}): {q}", "Parse error"] := by
  cases hq : (Source.text argument).quoted d with
  | error e => simp [dumpWord, hq] at h
  | ok q =>
    refine ⟨q, rfl, ?_⟩
    cases hwords : commandWords ("printf " ++ q) with
    | ok words =>
      obtain ⟨text, -, hdump⟩ := dumpWord_of_words hq hwords
      simp [hdump] at h
    | error e =>
      cases e with
      | expand e => simp [dumpWord, hq, hwords] at h
      | notParsed | notSimple kinds => simp [dumpWord, hq, hwords]

end

/-- Quoting succeeds for every argument without a zero byte. The line of a command and the quoted
argument, where its words can be read, has two, which lie where they were written. So a run shows
one word for its argument, and its status is 1 only if the arguments or the line cannot be read. -/
theorem commandWords_quoted :
    (∀ d argument word, (Source.text argument).data = .ok word → 0 ∉ word →
      ∃ q, (Source.text argument).quoted d = .ok q ∧
        ∀ words, commandWords ("printf " ++ q) = .ok words →
          ∃ text, words = [⟨"printf", 0, 6⟩, ⟨text, 7, 7 + q.length⟩] ∧
            dumpWord d argument = ⟨.ok 0,
              linesText (s!"Quoted ({d.name}): {q}" :: wordLines 1 [⟨text, 7, 7 + q.length⟩])⟩) ∧
    ∀ arguments, (dump arguments).ending = .ok 1 →
      (dump arguments).output = "Usage: quote-dump.py [--sh] 'word'\n" ∨
      ∃ d argument q, (Source.text argument).quoted d = .ok q ∧
        (dump arguments).output = linesText [s!"Quoted ({d.name}): {q}", "Parse error"] := by
  constructor
  · intro d argument word hword hnul
    have hq : (Source.text argument).quoted d = .ok (textOfAscii (d.write word)) := by
      simp [Source.quoted, Source.quotedBytes, hword, Dialect.quote_eq_write hnul,
        Source.isScattered, bind, Except.bind, pure, Except.pure]
    exact ⟨_, hq, fun words hwords => dumpWord_of_words hq hwords⟩
  · intro arguments h
    simp only [dump] at h ⊢
    split at h
    · next word hrest =>
      obtain ⟨q, hq, houtput⟩ := dumpWord_status h
      exact .inr ⟨_, _, q, hq, houtput⟩
    · exact .inl rfl

/-- A quote, a newline and bytes above the ASCII range in one argument. -/
theorem commandWords_quoted_mixed :
    (Source.text (Text.ofString "it's\né")).quoted .bash = .ok "$'it\\'s\\n\\xC3\\xA9'" ∧
    commandWords ("printf " ++ "$'it\\'s\\n\\xC3\\xA9'") =
      .ok [⟨"printf", 0, 6⟩, ⟨"$it'snxC3xA9", 7, 25⟩] ∧
    (dumpWord .bash (Text.ofString "it's\né")).ending = .ok 0 := by
  have hdata : (Source.text (Text.ofString "it's\né")).data =
      .ok [0x69, 0x74, 0x27, 0x73, 0x0A, 0xC3, 0xA9] := by cbv
  obtain ⟨q, hq, hread⟩ := commandWords_quoted.1 .bash _ _ hdata (by decide)
  have hquoted : (Source.text (Text.ofString "it's\né")).quoted .bash =
      .ok "$'it\\'s\\n\\xC3\\xA9'" := by cbv
  obtain rfl : q = _ := Except.ok.inj (hq.symm.trans hquoted)
  have hwrite : lineChars (Dialect.bash.write [0x69, 0x74, 0x27, 0x73, 0x0A, 0xC3, 0xA9]) =
      "$'it\\'s\\n\\xC3\\xA9'".toList := by decide
  have hline := commandWords_printf
    (isClosed_write .bash [0x69, 0x74, 0x27, 0x73, 0x0A, 0xC3, 0xA9]) (beginsWord_write .bash _)
  have hexpand : expandWord ⟨"$'it\\'s\\n\\xC3\\xA9'".toList, 7, 25⟩ =
      .ok ⟨"$it'snxC3xA9", 7, 25⟩ := by decide
  have hlength : "$'it\\'s\\n\\xC3\\xA9'".toList.length = 18 := by decide
  rw [hwrite, String.ofList_toList, hlength, hexpand] at hline
  obtain ⟨text, -, hdump⟩ := hread _ hline
  exact ⟨hquoted, hline, by rw [hdump]⟩

end ShellWord.ShellLine
