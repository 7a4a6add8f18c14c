import ShellWord.Command.Words
import ShellWord.Proofs.RoundTrip
import ShellWord.Source.Quoted

/-!
# Quoted words side by side

The two ways to write several words, as the text of sources or as the output of the command, put
single spaces between the quoted words. Read as arguments, the words come back: as many, in the
same order, with the same bytes.
-/

namespace ShellWord

/-! ## Words with spaces between them -/

theorem intercalate_space_cons (text : Bytes) (texts : List Bytes) :
    List.intercalate [0x20] (text :: texts) = text ++ texts.flatMap fun t => 0x20 :: t := by
  induction texts generalizing text with
  | nil => simp
  | cons t rest ih => rw [List.intercalate_cons_cons, ih]; simp

theorem Dialect.quoteOnto_eq (d : Dialect) (before word : Bytes) :
    d.quoteOnto before word = (d.quote word).map (before ++ ·) := by
  rw [quoteOnto]
  cases d.quote word <;> rfl

namespace Command

variable {clock : Nat → String} {d : Dialect}

/-- From the second word on, each word is written behind a space. What is logged has no part in
the output. -/
theorem quoteFrom_succ_snd (tick : Nat) (w : Journal.World) (out : Bytes) (words : List Bytes) :
    (quoteFrom clock d (tick + 1) w out words).2 =
      (words.mapM d.quote).map fun qs => out ++ qs.flatMap fun q => 0x20 :: q := by
  induction words generalizing tick w out with
  | nil => simp [quoteFrom, Except.map, pure, Except.pure]
  | cons word rest ih =>
    rw [quoteFrom, List.mapM_cons, Dialect.quoteOnto_eq]
    cases hq : d.quote word with
    | error e => simp [Except.map, bind, Except.bind]
    | ok q =>
      -- after the first word the tick is not zero
      simp only [Except.map, Nat.add_eq_zero_iff, one_ne_zero, and_false, if_false]
      rw [ih]
      cases rest.mapM d.quote <;> simp [Except.map, bind, Except.bind, pure, Except.pure]

theorem quoteWords_snd (w : Journal.World) (words : List Bytes) :
    (quoteWords clock d w words).2 = (words.mapM d.quote).map (List.intercalate [0x20]) := by
  cases words with
  | nil => rfl
  | cons word rest =>
    rw [quoteWords, quoteFrom, List.mapM_cons, Dialect.quoteOnto_eq]
    cases hq : d.quote word with
    | error e => simp [Except.map, bind, Except.bind]
    | ok q =>
      simp only [Except.map, if_true, List.nil_append]
      rw [quoteFrom_succ_snd]
      cases rest.mapM d.quote <;>
        simp [Except.map, bind, Except.bind, pure, Except.pure, intercalate_space_cons]

end Command

/-! ## Words as sources -/

theorem ascii_textOfAscii (data : Bytes) : ascii (textOfAscii data) = data := by
  have hbyte : ∀ b : UInt8, UInt8.ofNat (Char.ofNat b.toNat).toNat = b := by
    intro b
    have hvalid : b.toNat.isValidChar := .inl (by have := b.toNat_lt; omega)
    rw [Char.ofNat, dif_pos hvalid]
    exact UInt8.ofNat_toNat
  rw [ascii, textOfAscii, String.toList_ofList, List.map_map]
  exact List.map_id'' hbyte data

theorem textOfAscii_append (data more : Bytes) :
    textOfAscii (data ++ more) = textOfAscii data ++ textOfAscii more := by
  simp [textOfAscii, String.ofList_append]

theorem textOfAscii_intercalate (texts : List Bytes) :
    " ".intercalate (texts.map textOfAscii) = textOfAscii (List.intercalate [0x20] texts) := by
  have hspace : textOfAscii [0x20] = " " := by decide
  induction texts with
  | nil => rfl
  | cons text rest ih =>
    cases rest with
    | nil => simp
    | cons t more =>
      simp only [List.map_cons, String.intercalate_cons_cons, List.intercalate_cons_cons] at ih ⊢
      rw [ih, textOfAscii_append, textOfAscii_append, hspace]

theorem ascii_intercalate (texts : List Bytes) :
    ascii (" ".intercalate (texts.map textOfAscii)) = List.intercalate [0x20] texts := by
  rw [textOfAscii_intercalate, ascii_textOfAscii]

namespace Source

variable {d : Dialect}

theorem quotedBytes_bytes (word : Bytes) :
    quotedBytes (.bytes word) d = (d.quote word).mapError .nul := by
  rw [quotedBytes, data]
  cases hq : d.quote word with
  | error e => simp [hq, Except.mapError]
  | ok q => simp [hq, isScattered, Except.mapError]

theorem join_bytes (words : List Bytes) :
    join (words.map .bytes) d =
      ((words.mapM d.quote).mapError .nul).map fun qs => " ".intercalate (qs.map textOfAscii) := by
  have hmapM : (words.map Source.bytes).mapM (fun w => w.quoted d) =
      ((words.mapM d.quote).mapError .nul).map (·.map textOfAscii) := by
    induction words with
    | nil => rfl
    | cons word rest ih =>
      rw [List.map_cons, List.mapM_cons, List.mapM_cons, quoted, quotedBytes_bytes, ih]
      cases d.quote word with
      | error e => rfl
      | ok q => cases rest.mapM d.quote <;> rfl
  rw [join, hmapM]
  cases words.mapM d.quote <;> rfl

end Source

/-! ## Reading the words as arguments -/

namespace Reading

variable {k : Constructs}

/-- Spellings with spaces between them are read as so many arguments. -/
theorem arguments?_intercalate {f : Bytes → Bytes} {words : List Bytes}
    (h : ∀ word ∈ words, Spells k (f word) word) :
    arguments? k (List.intercalate [0x20] (words.map f)) = some words := by
  rw [arguments?]
  induction words with
  | nil => exact argumentsFrom_nil none
  | cons word rest ih =>
    have hword := h word List.mem_cons_self
    have hrest := ih fun v hv => h v (List.mem_cons_of_mem word hv)
    cases rest with
    | nil =>
      have hread := argumentsFrom_append hword none []
      simpa using hread
    | cons v more =>
      -- the space ends the first argument, and what is behind it is read afresh
      rw [List.map_cons, List.map_cons, List.intercalate_cons_cons, List.append_assoc,
        argumentsFrom_append hword, List.singleton_append, argumentsFrom_blank, ← List.map_cons,
        hrest]
      simp

/-- Words joined for a dialect are read by its shell as exactly these arguments, whether they are
joined as texts or by the command, and whatever the command logs. -/
theorem arguments_of_joined_words (d : Dialect) {words : List Bytes}
    (h : ∀ word ∈ words, 0 ∉ word) :
    ∃ text, Source.join (words.map .bytes) d = .ok text ∧
      (∀ clock w, (Command.quoteWords clock d w words).2 = .ok (ascii text)) ∧
      arguments? (.ofDialect d) (ascii text) = some words ∧
      (words = [] → text = "") := by
  have hquote := Dialect.mapM_quote (d := d) h
  refine ⟨" ".intercalate ((words.map d.write).map textOfAscii), ?_, ?_, ?_, ?_⟩
  · rw [Source.join_bytes, hquote]
    rfl
  · intro clock w
    rw [Command.quoteWords_snd, hquote, ascii_intercalate]
    rfl
  · rw [ascii_intercalate]
    exact arguments?_intercalate fun word hword => spells_write d (h word hword)
  · rintro rfl
    rfl

/-- An empty word, a blank and a newline: three arguments. -/
theorem arguments_of_joined_words_blank :
    (∀ word ∈ ([[], [0x20], [0x61, 0x0A]] : List Bytes), 0 ∉ word) ∧
    arguments? (.ofDialect .bash) (ascii "'' ' ' $'a\\n'") =
      some [[], [0x20], [0x61, 0x0A]] := by
  have hwords : ∀ word ∈ ([[], [0x20], [0x61, 0x0A]] : List Bytes), 0 ∉ word := by decide
  obtain ⟨text, hjoin, _, hread, _⟩ := arguments_of_joined_words .bash hwords
  have hwritten : Source.join (([[], [0x20], [0x61, 0x0A]] : List Bytes).map .bytes) .bash =
      .ok "'' ' ' $'a\\n'" := by decide
  rw [hwritten] at hjoin
  cases hjoin
  exact ⟨hwords, hread⟩

end Reading

end ShellWord
