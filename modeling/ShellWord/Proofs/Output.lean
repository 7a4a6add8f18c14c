import ShellWord.Proofs.RunLog
import ShellWord.Proofs.Sequence

/-!
# All or nothing

A run prints all of its words or nothing. It refuses its arguments, or it prints every word quoted
for the dialect of the last flag, or it names the first zero byte of the first word that has one.
In each case the log tells exactly how far it got.
-/

namespace ShellWord

/-! ## The first zero byte -/

theorem Dialect.quote_eq_error_of_first {pre : Bytes} (h : 0 ∉ pre) (d : Dialect)
    (post : Bytes) : d.quote (pre ++ 0 :: post) = .error ⟨pre.length⟩ := by
  have hfirst : firstNul? (pre ++ 0 :: post) = some pre.length := by
    rw [firstNul?, List.findIdx?_append, ← firstNul?, firstNul?_eq_none_iff.2 h,
      List.findIdx?_cons]
    simp
  rw [quote, checkNoNul, hfirst]
  rfl

/-- Among words that have a zero byte somewhere there is a first, and it has a first zero byte. -/
theorem exists_first_nul {words : List Bytes} (h : ∃ word ∈ words, 0 ∈ word) :
    ∃ before pre post after, words = before ++ (pre ++ 0 :: post) :: after ∧
      (∀ word ∈ before, 0 ∉ word) ∧ 0 ∉ pre := by
  obtain ⟨word, hword, hzero⟩ := h
  have hsome : (words.find? fun word => 0 ∈ word).isSome := by
    rw [List.find?_isSome]
    exact ⟨word, hword, by simpa using hzero⟩
  obtain ⟨first, hfirst⟩ := Option.isSome_iff_exists.1 hsome
  obtain ⟨hhas, before, after, rfl, hbefore⟩ := List.find?_eq_some_iff_append.1 hfirst
  obtain ⟨pre, post, rfl, hpre⟩ := List.eq_append_cons_of_mem (of_decide_eq_true hhas)
  exact ⟨before, pre, post, after, rfl, fun v hv => by simpa using hbefore v hv, hpre⟩

namespace Command

/-! ## The dialect of a run -/

/-- The dialect of the last flag. Behind the end of the flags there are none. -/
def lastFlag (arguments : List Text) : Option Dialect :=
  ((arguments.takeWhile (· ≠ endOfFlags)).filterMap dialectOfFlag?).getLast?

/-- The dialect that a run writes for: that of the last flag, or else that of the settings, or else
bash. -/
def dialectFor (arguments : List Text) (s : Settings) : Dialect :=
  ((lastFlag arguments).or s.dialect).getD .bash

theorem lastFlag_endOfFlags (rest : List Text) : lastFlag (endOfFlags :: rest) = none := by
  simp [lastFlag]

theorem lastFlag_cons {argument : Text} (h : argument ≠ endOfFlags) (rest : List Text) :
    lastFlag (argument :: rest) = (lastFlag rest).or (dialectOfFlag? argument) := by
  rw [lastFlag, List.takeWhile_cons_of_pos (by simpa using h), List.filterMap_cons]
  cases dialectOfFlag? argument with
  | none => exact Option.or_none.symm
  | some d => rw [List.getLast?_cons, ← lastFlag, Option.or_some]

theorem dialect_of_readFrom {done args : Arguments} {arguments : List Text}
    (h : Arguments.readFrom done arguments = .ok args) :
    args.dialect = (lastFlag arguments).or done.dialect := by
  fun_induction Arguments.readFrom done arguments with
  | case1 =>
    cases h
    rfl
  | case2 done rest =>
    obtain ⟨words, -, hargs⟩ := bind_eq_ok_iff.1 h
    cases hargs
    rw [lastFlag_endOfFlags, Option.none_or]
  -- a flag counts only if no other follows
  | case3 done argument rest hflags d hflag ih =>
    rw [ih h, lastFlag_cons hflags, hflag, Option.or_assoc, Option.some_or]
  | case4 | case6 => cases h
  | case5 done argument rest hflags hflag _ word _ ih =>
    rw [ih h, lastFlag_cons hflags, hflag, Option.or_none]

theorem dialect_of_read {args : Arguments} {arguments : List Text} (s : Settings)
    (h : Arguments.read arguments = .ok args) :
    args.dialect.getD s.effectiveDialect = dialectFor arguments s := by
  rw [dialect_of_readFrom h, Option.or_none, dialectFor, Option.getD_or, Settings.effectiveDialect]

/-! ## What a run does -/

section

variable {host : Host} {clock : Nat → String} {journal : Journal} {arguments : List Text}
  {stdin : Bytes} {args : Arguments} {s : Settings}

/-- A run has printed its words, and its log tells that each was quoted. -/
structure Report.Prints (r : Report) (host : Host) (s : Settings) (clock : Nat → String)
    (d : Dialect) (words : List Bytes) : Prop where
  ending : r.ending = .status 0
  output : ∃ quoted, words.mapM d.quote = .ok quoted ∧
    r.output = List.intercalate [0x20] quoted ++ [0x0A]
  errors : r.errors = []
  log : HasLogged host s (Journal.quotedLines s.effectiveLogFull d clock 0 words) r.world

/-- A run has rejected a word for its first zero byte. Its log tells that the words before were
quoted and that this one was rejected, and nothing of those after it. -/
structure Report.Rejects (r : Report) (host : Host) (s : Settings) (clock : Nat → String)
    (d : Dialect) (before : List Bytes) (word : Bytes) (offset : Nat) : Prop where
  refuses : r.Refuses 1
    (Text.ofString s!"NUL byte at offset {offset} cannot be passed to a shell")
  log : HasLogged host s
    (Journal.quotedLines s.effectiveLogFull d clock 0 before ++
      Journal.rejectedLine s.effectiveLogFull d (clock before.length) word
        s!"NUL byte at offset {offset} cannot be passed to a shell")
    r.world

theorem prints_of_opened (hlog : (openLog host journal s).2 = .ok ())
    (hwords : ∀ word ∈ args.inputs stdin, 0 ∉ word) :
    (runWith host clock args stdin journal s).Prints host s clock
      (args.dialect.getD s.effectiveDialect) (args.inputs stdin) := by
  have hquoted := Dialect.mapM_quote (d := args.dialect.getD s.effectiveDialect) hwords
  rw [runWith_of_opened hlog, print_of_quoted hquoted]
  exact ⟨rfl, ⟨_, hquoted, rfl⟩, rfl, hasLogged_quoteWords (hasLogged_openLog hlog) hwords⟩

theorem rejects_of_opened (hlog : (openLog host journal s).2 = .ok ()) {before after : List Bytes}
    {pre post : Bytes} (hinputs : args.inputs stdin = before ++ (pre ++ 0 :: post) :: after)
    (hbefore : ∀ word ∈ before, 0 ∉ word) (hpre : 0 ∉ pre) :
    (runWith host clock args stdin journal s).Rejects host s clock
      (args.dialect.getD s.effectiveDialect) before (pre ++ 0 :: post) pre.length := by
  have hword := Dialect.quote_eq_error_of_first hpre (args.dialect.getD s.effectiveDialect) post
  -- the words before it would be quoted, so this one decides
  have hrefused : (args.inputs stdin).mapM (args.dialect.getD s.effectiveDialect).quote =
      .error ⟨pre.length⟩ := by
    rw [hinputs]
    exact mapM_of_first_error (fun v hv => ⟨_, Dialect.quote_eq_write (hbefore v hv)⟩) hword
  rw [runWith_of_opened hlog, print_of_refused hrefused, hinputs]
  exact ⟨⟨rfl, rfl, rfl⟩, hasLogged_quoteWords_rejected (hasLogged_openLog hlog) hbefore hword⟩

/-- A run that does not ask for help, and can load its settings and open its log, refuses its
arguments and leaves everything as it was; or prints all of its words and logs each; or prints
nothing, names the first zero byte of the first word that has one, and logs the words up to it. -/
theorem run_all_or_nothing (hhelp : ¬ AsksForHelp arguments)
    (hload : Settings.loadHere host = .ok s) (hlog : (openLog host journal s).2 = .ok ()) :
    (∀ e, Arguments.read arguments = .error e →
      (run host clock journal arguments stdin).Refuses 2
          (e.message ++ Text.ofString s!"\n{usage}") ∧
        (run host clock journal arguments stdin).world = ⟨journal, host.tree⟩) ∧
    ∀ args, Arguments.read arguments = .ok args →
      ((∀ word ∈ args.inputs stdin, 0 ∉ word) →
        (run host clock journal arguments stdin).Prints host s clock (dialectFor arguments s)
          (args.inputs stdin)) ∧
      ((∃ word ∈ args.inputs stdin, 0 ∈ word) →
        ∃ before pre post after, args.inputs stdin = before ++ (pre ++ 0 :: post) :: after ∧
          (∀ word ∈ before, 0 ∉ word) ∧ 0 ∉ pre ∧
          (run host clock journal arguments stdin).Rejects host s clock (dialectFor arguments s)
            before (pre ++ 0 :: post) pre.length) := by
  refine ⟨fun e hargs => ?_, fun args hargs => ?_⟩
  -- refused arguments end a run before anything is looked up
  · rw [run_of_refused hhelp hargs]
    exact ⟨⟨rfl, rfl, rfl⟩, rfl⟩
  · rw [run_of_loaded ⟨hhelp, hargs⟩ hload, ← dialect_of_read s hargs]
    refine ⟨prints_of_opened hlog, fun hzero => ?_⟩
    obtain ⟨before, pre, post, after, hinputs, hbefore, hpre⟩ := exists_first_nul hzero
    exact ⟨before, pre, post, after, hinputs, hbefore, hpre,
      rejects_of_opened hlog hinputs hbefore hpre⟩

/-- A host whose user keeps a log. -/
def loggingHost : Host where
  tree := ⟨[(["home"], .directory), (["home", ".shellquote"], .directory),
    (["home", ".shellquote", "config.toml"], .file (ascii "log = '/x/log'")),
    (["work"], .directory)]⟩
  cwd := ["work"]
  homes := ⟨"/home", []⟩
  namedFile := none

/-- What the settings of that host come to. -/
def loggingSettings : Settings where
  log := some ⟨.root, ["x", "log"]⟩
  source := some "/home/.shellquote/config.toml"

/-- The arguments that ask for two words, `a` and `b c`, to be quoted for the dialect `sh`. -/
def twoWords : List Text := ["--sh", "a", "b c"].map Text.ofString

/-- Two words are printed and logged; a zero byte in the standard input is rejected. -/
theorem run_all_or_nothing_logging :
    Settings.loadHere loggingHost = .ok loggingSettings ∧
    (openLog loggingHost {} loggingSettings).2 = .ok () ∧
    (run loggingHost (fun _ => "now") {} twoWords []).output = ascii "a 'b c'\n" ∧
    HasLogged loggingHost loggingSettings
      (Journal.quotedLines false .sh (fun _ => "now") 0 [[0x61], [0x62, 0x20, 0x63]])
      (run loggingHost (fun _ => "now") {} twoWords []).world ∧
    (run loggingHost (fun _ => "now") {} [flag .sh] [0x61, 0]).Refuses 1
      (Text.ofString "NUL byte at offset 1 cannot be passed to a shell") := by
  have hload : Settings.loadHere loggingHost = .ok loggingSettings :=
    eq_ok_of_toOption (by decide +kernel)
  have hlog : (openLog loggingHost {} loggingSettings).2 = .ok () :=
    eq_ok_of_toOption (by decide +kernel)
  have hread : Arguments.read twoWords = .ok ⟨some .sh, [[0x61], [0x62, 0x20, 0x63]]⟩ :=
    eq_ok_of_toOption (by decide +kernel)
  have hflag : Arguments.read [flag .sh] = .ok ⟨some .sh, []⟩ :=
    eq_ok_of_toOption (by decide +kernel)
  have hdialect : dialectFor twoWords loggingSettings = .sh := by decide +kernel
  have hquoted : [[0x61], [0x62, 0x20, 0x63]].mapM Dialect.sh.quote =
      .ok [ascii "a", ascii "'b c'"] := by decide
  have hprints : (run loggingHost (fun _ => "now") {} twoWords []).Prints loggingHost
      loggingSettings (fun _ => "now") (dialectFor twoWords loggingSettings)
      [[0x61], [0x62, 0x20, 0x63]] :=
    ((run_all_or_nothing (by decide) hload hlog).2 _ hread).1 (by decide)
  obtain ⟨before, pre, post, after, hwords, _, hpre, hrejects⟩ :
      ∃ before pre post after, [[0x61, 0]] = before ++ (pre ++ 0 :: post) :: after ∧
        (∀ word ∈ before, 0 ∉ word) ∧ 0 ∉ pre ∧
        (run loggingHost (fun _ => "now") {} [flag .sh] [0x61, 0]).Rejects loggingHost
          loggingSettings (fun _ => "now") (dialectFor [flag .sh] loggingSettings) before
          (pre ++ 0 :: post) pre.length :=
    ((run_all_or_nothing (by decide) hload hlog).2 _ hflag).2 (by decide)
  rw [hdialect] at hprints
  obtain ⟨quoted, hmapM, houtput⟩ := hprints.output
  obtain rfl := Except.ok.inj (hquoted.symm.trans hmapM)
  -- the one word has its first zero byte at offset 1
  have hoffset : pre.length = 1 := by
    have hword : pre ++ 0 :: post = [0x61, 0] :=
      List.mem_singleton.1 (hwords ▸ List.mem_append_right before List.mem_cons_self)
    have hrefused := Dialect.quote_eq_error_of_first hpre .sh post
    have hone : Dialect.sh.quote [0x61, 0] = .error ⟨1⟩ := by decide
    rw [hword, hone] at hrefused
    exact (congrArg NulByte.offset (Except.error.inj hrefused)).symm
  refine ⟨hload, hlog, houtput.trans (by decide), hprints.log, ?_⟩
  have hrefuses := hrejects.refuses
  rw [hoffset] at hrefuses
  exact hrefuses

end

end Command

end ShellWord
