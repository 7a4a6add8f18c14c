import ShellWord.Proofs.Decoding
import ShellWord.Proofs.Output

/-!
# What arguments ask for

Arguments are read one after another, up to the one that ends the flags. What they ask for can be
said of the whole list: the first argument before that end which is an unknown option decides; if
there is none, the last flag gives the dialect, and all else are words.
-/

namespace ShellWord.Command

open Utf8 (decodeEscaping)

variable {argument : Text} {done : Arguments}

/-! ## Single arguments -/

/-- An argument that begins with a minus sign and is neither the sign alone nor a flag. -/
def IsUnknownOption (argument : Text) : Prop :=
  argument.head? = some (CodePoint.ofChar '-') ∧ argument ≠ Text.ofString "-" ∧
    argument ≠ Text.ofString "--bash" ∧ argument ≠ Text.ofString "--sh"

instance (argument : Text) : Decidable (IsUnknownOption argument) :=
  inferInstanceAs (Decidable (_ ∧ _))

theorem length_ne_one_iff (h : argument.head? = some (CodePoint.ofChar '-')) :
    argument.length ≠ 1 ↔ argument ≠ Text.ofString "-" := by
  obtain ⟨rest, rfl⟩ := List.head?_eq_some_iff.1 h
  have hminus : Text.ofString "-" = [CodePoint.ofChar '-'] := rfl
  cases rest with
  | nil => simp [hminus]
  | cons c more => simp [hminus]

theorem dialectOfFlag?_eq_none_iff :
    dialectOfFlag? argument = none ↔
      argument ≠ Text.ofString "--bash" ∧ argument ≠ Text.ofString "--sh" := by
  rw [Option.eq_none_iff_forall_ne_some]
  constructor
  · intro h
    exact ⟨fun heq => h .bash (dialectOfFlag?_eq_some_iff.2 heq),
      fun heq => h .sh (dialectOfFlag?_eq_some_iff.2 heq)⟩
  · rintro ⟨hbash, hsh⟩ d hd
    have hflag := dialectOfFlag?_eq_some_iff.1 hd
    cases d with
    | bash => exact hbash hflag
    | sh => exact hsh hflag

theorem isUnknownOption_iff :
    IsUnknownOption argument ↔ dialectOfFlag? argument = none ∧ looksLikeOption argument = true := by
  rw [IsUnknownOption, dialectOfFlag?_eq_none_iff, looksLikeOption, Bool.and_eq_true,
    decide_eq_true_eq, decide_eq_true_eq]
  constructor
  · rintro ⟨hhead, hminus, hflags⟩
    exact ⟨hflags, hhead, (length_ne_one_iff hhead).2 hminus⟩
  · rintro ⟨hflags, hhead, hlength⟩
    exact ⟨hhead, (length_ne_one_iff hhead).1 hlength, hflags⟩

theorem flag_ne_endOfFlags (d : Dialect) : flag d ≠ endOfFlags := by
  cases d <;> decide

/-! ## One step -/

namespace Arguments

theorem readFrom_endOfFlags (words : List Bytes) :
    readFrom done (endOfFlags :: words.map decodeEscaping) =
      .ok ⟨done.dialect, done.words ++ words⟩ := by
  rw [readFrom, if_pos rfl, Utf8.mapM_wordOf_decodeEscaping]
  rfl

theorem readFrom_flag (d : Dialect) (rest : List Text) :
    readFrom done (flag d :: rest) = readFrom ⟨some d, done.words⟩ rest := by
  rw [readFrom, if_neg (flag_ne_endOfFlags d), dialectOfFlag?_eq_some_iff.2 rfl]

theorem readFrom_unknownOption (hend : argument ≠ endOfFlags) (h : IsUnknownOption argument)
    (rest : List Text) : readFrom done (argument :: rest) = .error (.unknownOption argument) := by
  obtain ⟨hflag, hoption⟩ := isUnknownOption_iff.1 h
  rw [readFrom, if_neg hend, hflag]
  exact if_pos hoption

theorem readFrom_word {word : Bytes} (hend : decodeEscaping word ≠ endOfFlags)
    (hflag : dialectOfFlag? (decodeEscaping word) = none)
    (h : ¬ IsUnknownOption (decodeEscaping word)) (rest : List Text) :
    readFrom done (decodeEscaping word :: rest) =
      readFrom ⟨done.dialect, done.words ++ [word]⟩ rest := by
  have hoption : ¬ looksLikeOption (decodeEscaping word) = true := by
    intro hoption
    exact h (isUnknownOption_iff.2 ⟨hflag, hoption⟩)
  rw [readFrom, if_neg hend, hflag]
  simp only [if_neg hoption, Utf8.wordOf_decodeEscaping]

end Arguments

/-! ## The whole list -/

/-- The index of the argument that ends the flags. If there is none, all arguments come before. -/
def endIndex (arguments : List Text) : Nat := arguments.findIdx (· = endOfFlags)

/-- The first argument before the end of the flags that is an unknown option. -/
def unknownOption? (arguments : List Text) : Option Text :=
  (arguments.take (endIndex arguments)).find? (IsUnknownOption ·)

/-- The words among arguments, as bytes: before the end of the flags those that are no flags, and
behind it all of them. -/
def plainWords (raw : List Bytes) : List Bytes :=
  let k := endIndex (raw.map decodeEscaping)
  (raw.take k).filter (fun b => dialectOfFlag? (decodeEscaping b) = none) ++ raw.drop (k + 1)

theorem endIndex_endOfFlags (rest : List Text) : endIndex (endOfFlags :: rest) = 0 := by
  simp [endIndex, List.findIdx_cons]

theorem endIndex_cons (h : argument ≠ endOfFlags) (rest : List Text) :
    endIndex (argument :: rest) = endIndex rest + 1 := by
  simp [endIndex, List.findIdx_cons, h]

theorem take_endIndex (arguments : List Text) :
    arguments.take (endIndex arguments) = arguments.takeWhile (· ≠ endOfFlags) := by
  rw [List.takeWhile_eq_take_findIdx_not, endIndex]
  simp

theorem unknownOption?_endOfFlags (rest : List Text) : unknownOption? (endOfFlags :: rest) = none := by
  rw [unknownOption?, endIndex_endOfFlags]
  rfl

theorem unknownOption?_cons (h : argument ≠ endOfFlags) (rest : List Text) :
    unknownOption? (argument :: rest) =
      if IsUnknownOption argument then some argument else unknownOption? rest := by
  rw [unknownOption?, endIndex_cons h, List.take_succ_cons, List.find?_cons]
  by_cases hunknown : IsUnknownOption argument
  · simp [hunknown]
  · simp [hunknown, unknownOption?]

theorem plainWords_cons_endOfFlags {word : Bytes} (h : decodeEscaping word = endOfFlags)
    (rest : List Bytes) : plainWords (word :: rest) = rest := by
  simp [plainWords, h, endIndex_endOfFlags]

theorem plainWords_cons {word : Bytes} (h : decodeEscaping word ≠ endOfFlags)
    (rest : List Bytes) :
    plainWords (word :: rest) =
      if dialectOfFlag? (decodeEscaping word) = none then word :: plainWords rest
      else plainWords rest := by
  rw [plainWords, List.map_cons, endIndex_cons h, List.take_succ_cons, List.filter_cons]
  by_cases hflag : dialectOfFlag? (decodeEscaping word) = none
  · simp [hflag, plainWords]
  · simp [hflag, plainWords]

namespace Arguments

/-- The arguments that follow those read already add their words, and their last flag counts. -/
theorem readFrom_decoded (done : Arguments) (raw : List Bytes) :
    readFrom done (raw.map decodeEscaping) =
      match unknownOption? (raw.map decodeEscaping) with
      | some argument => .error (.unknownOption argument)
      | none =>
        .ok ⟨(lastFlag (raw.map decodeEscaping)).or done.dialect, done.words ++ plainWords raw⟩ := by
  induction raw generalizing done with
  | nil => simp [readFrom, unknownOption?, lastFlag, plainWords]
  | cons word rest ih =>
    rw [List.map_cons]
    by_cases hend : decodeEscaping word = endOfFlags
    · rw [hend, readFrom_endOfFlags, unknownOption?_endOfFlags, lastFlag_endOfFlags,
        plainWords_cons_endOfFlags hend, Option.none_or]
    by_cases hunknown : IsUnknownOption (decodeEscaping word)
    · rw [readFrom_unknownOption hend hunknown, unknownOption?_cons hend, if_pos hunknown]
    rw [unknownOption?_cons hend, if_neg hunknown, lastFlag_cons hend, plainWords_cons hend]
    cases hflag : dialectOfFlag? (decodeEscaping word) with
    | some d =>
      -- a flag further on replaces this one, which replaces what was read before
      rw [dialectOfFlag?_eq_some_iff.1 hflag, readFrom_flag, ih, Option.or_assoc, Option.some_or]
      rfl
    | none =>
      rw [readFrom_word hend hflag hunknown, ih, Option.or_none, List.append_assoc]
      rfl

theorem readFrom_flags (done : Arguments) (flags : List Dialect) (rest : List Text) :
    readFrom done (flags.map flag ++ rest) =
      readFrom ⟨flags.getLast?.or done.dialect, done.words⟩ rest := by
  induction flags generalizing done with
  | nil => rfl
  | cons d more ih =>
    rw [List.map_cons, List.cons_append, readFrom_flag, ih, List.getLast?_cons]
    cases more.getLast? <;> rfl

theorem lastFlag_eq (arguments : List Text) :
    lastFlag arguments =
      ((arguments.take (endIndex arguments)).filterMap dialectOfFlag?).getLast? := by
  rw [lastFlag, take_endIndex]

theorem unknownOption?_eq_none_iff {arguments : List Text} :
    unknownOption? arguments = none ↔
      ∀ argument ∈ arguments.take (endIndex arguments), ¬ IsUnknownOption argument := by
  simp [unknownOption?]

variable {raw : List Bytes}

theorem read_eq_error_iff {e : ArgumentError} :
    read (raw.map decodeEscaping) = .error e ↔
      ∃ argument, unknownOption? (raw.map decodeEscaping) = some argument ∧
        e = .unknownOption argument := by
  rw [read, readFrom_decoded]
  cases unknownOption? (raw.map decodeEscaping) with
  | none => simp
  | some argument => simp [eq_comm]

theorem read_eq_ok (h : unknownOption? (raw.map decodeEscaping) = none) :
    read (raw.map decodeEscaping) =
      .ok ⟨lastFlag (raw.map decodeEscaping), plainWords raw⟩ := by
  rw [read, readFrom_decoded, h]
  simp only [Option.or_none, List.nil_append]

/-- What is asked for depends on the arguments before the end of the flags: the first of them that
is an unknown option is refused by name, and if none is, the last flag among them gives the dialect.
The words are those of them that are no flags, followed by all that comes behind the end. So any
words can be passed behind any flags. -/
theorem read_decoded (raw : List Bytes) :
    let arguments := raw.map decodeEscaping
    let before := arguments.take (endIndex arguments)
    ((∃ e, read arguments = .error e) ↔ ∃ argument ∈ before, IsUnknownOption argument) ∧
    (∀ e, read arguments = .error e →
      ∃ argument, before.find? (IsUnknownOption ·) = some argument ∧
        e.message = Text.ofString "unknown option '" ++ argument ++ Text.ofString "'") ∧
    ((∀ argument ∈ before, ¬ IsUnknownOption argument) →
      read arguments = .ok ⟨(before.filterMap dialectOfFlag?).getLast?, plainWords raw⟩) ∧
    (∀ argument d, dialectOfFlag? argument = some d ↔ argument = flag d) ∧
    ∀ (flags : List Dialect) (words : List Bytes),
      read (flags.map flag ++ endOfFlags :: words.map decodeEscaping) =
        .ok ⟨flags.getLast?, words⟩ := by
  intro arguments before
  refine ⟨⟨?_, ?_⟩, ?_, ?_, fun _ _ => dialectOfFlag?_eq_some_iff, ?_⟩
  · rintro ⟨e, he⟩
    obtain ⟨argument, hfind, -⟩ := read_eq_error_iff.1 he
    exact ⟨argument, List.mem_of_find?_eq_some hfind, by simpa using List.find?_some hfind⟩
  · rintro ⟨argument, hmem, hargument⟩
    have hsome : unknownOption? arguments ≠ none := by
      intro hnone
      exact unknownOption?_eq_none_iff.1 hnone argument hmem hargument
    obtain ⟨first, hfirst⟩ := Option.ne_none_iff_exists'.1 hsome
    exact ⟨_, read_eq_error_iff.2 ⟨first, hfirst, rfl⟩⟩
  · intro e he
    obtain ⟨argument, hfind, rfl⟩ := read_eq_error_iff.1 he
    exact ⟨argument, hfind, rfl⟩
  · intro h
    rw [read_eq_ok (unknownOption?_eq_none_iff.2 h), lastFlag_eq]
  · intro flags words
    rw [read, readFrom_flags, readFrom_endOfFlags, Option.or_none, List.nil_append]

/-- A flag behind a word counts, and what stands behind the end of the flags is a word, whatever it
looks like. Before the end it can be refused. -/
theorem read_decoded_flag_after_word :
    let raw := [ascii "--sh", ascii "a", ascii "--bash", ascii "-", ascii "--", ascii "-x",
      ascii "--sh", ascii "--", [], [0xFF]]
    (∀ argument ∈ (raw.map decodeEscaping).take (endIndex (raw.map decodeEscaping)),
      ¬ IsUnknownOption argument) ∧
    read (raw.map decodeEscaping) =
      .ok ⟨some .bash, [ascii "a", ascii "-", ascii "-x", ascii "--sh", ascii "--", [], [0xFF]]⟩ ∧
    ∃ e, read ([ascii "--sh", ascii "-x", ascii "--"].map decodeEscaping) = .error e := by
  intro raw
  have hbefore : ∀ argument ∈ (raw.map decodeEscaping).take (endIndex (raw.map decodeEscaping)),
      ¬ IsUnknownOption argument := by
    decide
  have hread := (read_decoded raw).2.2.1 hbefore
  refine ⟨hbefore, hread.trans (congrArg Except.ok ?_), (read_decoded _).1.2 (by decide)⟩
  decide

end Arguments

end ShellWord.Command
