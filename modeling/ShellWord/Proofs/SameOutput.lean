import ShellWord.Proofs.Output

/-!
# Runs that show the same

Where a run is started, and what it logs, is not shown by what it prints. Two runs of the same
arguments on hosts that let them through print the same and end with the same status, if a flag
chooses the dialect or the settings of both hosts choose the same one.
-/

namespace ShellWord.Command

/-- A flag chooses the dialect. Behind the end of the flags there are none. -/
def HasFlag (arguments : List Text) : Prop :=
  ∃ d, flag d ∈ arguments.takeWhile (· ≠ endOfFlags)

/-- What a run shows: its status and what it prints. -/
structure Shown where
  status : Nat
  output : Bytes
  errors : Text
  deriving DecidableEq, Repr

/-- What is shown by a run that does not break off. -/
def Report.shown? (r : Report) : Option Shown :=
  match r.ending with
  | .status n => some ⟨n, r.output, r.errors⟩
  | .broken _ => none

/-- What a run that opens its log shows, by nothing but what it is asked for and the dialect of its
settings. -/
def shownFor (arguments : List Text) (stdin : Bytes) (d : Dialect) : Shown :=
  if AsksForHelp arguments then ⟨0, ascii (usage ++ "\n"), []⟩
  else
    match Arguments.read arguments with
    | .error e => ⟨2, [], complaint (e.message ++ Text.ofString s!"\n{usage}")⟩
    | .ok args =>
      match (args.inputs stdin).mapM (args.dialect.getD d).quote with
      | .ok quoted => ⟨0, List.intercalate [0x20] quoted ++ [0x0A], []⟩
      | .error e => ⟨1, [], complaint (Text.ofString e.message)⟩

section

variable {host host' : Host} {clock clock' : Nat → String} {journal journal' : Journal}
  {arguments : List Text} {stdin : Bytes} {args : Arguments} {s s' : Settings} {d d' : Dialect}

/-! ## The dialect of a flag -/

theorem HasFlag.isSome_lastFlag (h : HasFlag arguments) : (lastFlag arguments).isSome := by
  obtain ⟨d, hd⟩ := h
  have hmem : d ∈ (arguments.takeWhile (· ≠ endOfFlags)).filterMap dialectOfFlag? :=
    List.mem_filterMap.2 ⟨flag d, hd, dialectOfFlag?_eq_some_iff.2 rfl⟩
  rw [lastFlag, List.getLast?_isSome]
  exact List.ne_nil_of_mem hmem

/-- The dialect of a flag is taken over that of the settings. -/
theorem HasFlag.getD_eq (h : HasFlag arguments) (hargs : Arguments.read arguments = .ok args)
    (d d' : Dialect) : args.dialect.getD d = args.dialect.getD d' := by
  obtain ⟨chosen, hchosen⟩ := Option.isSome_iff_exists.1 h.isSome_lastFlag
  have hdialect : args.dialect = some chosen := by
    rw [dialect_of_readFrom hargs, hchosen, Option.some_or]
  rw [hdialect, Option.getD_some, Option.getD_some]

theorem HasFlag.shownFor_eq (h : HasFlag arguments) :
    shownFor arguments stdin d = shownFor arguments stdin d' := by
  rw [shownFor, shownFor]
  by_cases hhelp : AsksForHelp arguments
  · rw [if_pos hhelp, if_pos hhelp]
  · rw [if_neg hhelp, if_neg hhelp]
    cases hargs : Arguments.read arguments with
    | error e => rfl
    | ok args =>
      have hsame := h.getD_eq hargs d d'
      simp only [hsame]

/-! ## What a run shows -/

/-- The words are quoted and printed without regard to the log. -/
theorem shown?_runWith (hlog : (openLog host journal s).2 = .ok ()) :
    (runWith host clock args stdin journal s).shown? =
      some (match (args.inputs stdin).mapM (args.dialect.getD s.effectiveDialect).quote with
        | .ok quoted => ⟨0, List.intercalate [0x20] quoted ++ [0x0A], []⟩
        | .error e => ⟨1, [], complaint (Text.ofString e.message)⟩) := by
  rw [runWith_of_opened hlog]
  cases hquoted : (args.inputs stdin).mapM (args.dialect.getD s.effectiveDialect).quote with
  | ok quoted =>
    rw [print_of_quoted hquoted]
    rfl
  | error e =>
    rw [print_of_refused hquoted]
    rfl

theorem shown?_run (hload : Settings.loadHere host = .ok s)
    (hlog : (openLog host journal s).2 = .ok ()) :
    (run host clock journal arguments stdin).shown? =
      some (shownFor arguments stdin s.effectiveDialect) := by
  rw [shownFor]
  by_cases hhelp : AsksForHelp arguments
  · rw [run_of_help hhelp, if_pos hhelp]
    rfl
  · rw [if_neg hhelp]
    cases hargs : Arguments.read arguments with
    | error e =>
      rw [run_of_refused hhelp hargs]
      rfl
    | ok args =>
      rw [run_of_loaded ⟨hhelp, hargs⟩ hload, shown?_runWith hlog]

/-! ## Two runs -/

/-- Two runs end with the same status and print the same. -/
def Report.ShowsAlike (r r' : Report) : Prop :=
  ∃ shown, r.shown? = some shown ∧ r'.shown? = some shown

/-- Two runs of the same arguments show the same, whatever their hosts are like, if these let them
load their settings and open their logs, and a flag chooses the dialect or their settings choose the
same. Where a log is kept and whether it is full never changes what a run shows. -/
theorem environment_not_shown (hload : Settings.loadHere host = .ok s)
    (hlog : (openLog host journal s).2 = .ok ()) (hload' : Settings.loadHere host' = .ok s')
    (hlog' : (openLog host' journal' s').2 = .ok ()) :
    (HasFlag arguments ∨ s.effectiveDialect = s'.effectiveDialect →
      (run host clock journal arguments stdin).ShowsAlike
        (run host' clock' journal' arguments stdin)) ∧
    ∀ args log logFull, (openLog host journal { s with log, logFull }).2 = .ok () →
      (runWith host clock args stdin journal s).ShowsAlike
        (runWith host clock' args stdin journal { s with log, logFull }) := by
  refine ⟨fun h => ?_, fun args log logFull hother => ?_⟩
  · have hsame : shownFor arguments stdin s.effectiveDialect =
        shownFor arguments stdin s'.effectiveDialect := by
      rcases h with hflag | hdialect
      · exact hflag.shownFor_eq
      · rw [hdialect]
    exact ⟨_, shown?_run hload hlog, hsame ▸ shown?_run hload' hlog'⟩
  -- the settings of the log have no part in the dialect
  · exact ⟨_, shown?_runWith hlog, shown?_runWith hother⟩

/-- A host that has no settings. -/
def plainHost : Host where
  tree := ⟨[(["work"], .directory)]⟩
  cwd := ["work"]
  homes := ⟨"/home", []⟩

/-- A host whose user writes for bash and keeps a full log. -/
def fullLogHost : Host where
  tree := ⟨[(["home"], .directory), (["home", ".shellquote"], .directory),
    (["home", ".shellquote", "config.toml"],
      .file (ascii "dialect = 'bash'\nlog = '/x/log'\nlog_full = true"))]⟩
  cwd := ["home"]
  homes := ⟨"/home", []⟩

/-- What the settings of that host come to. -/
def fullLogSettings : Settings where
  dialect := some .bash
  log := some ⟨.root, ["x", "log"]⟩
  logFull := some true
  source := some "/home/.shellquote/config.toml"

/-- A zero byte in the standard input is refused alike with and without a log. -/
theorem environment_not_shown_zero_byte :
    Settings.loadHere plainHost = .ok {} ∧ (openLog plainHost {} {}).2 = .ok () ∧
    Settings.loadHere fullLogHost = .ok fullLogSettings ∧
    (openLog fullLogHost {} fullLogSettings).2 = .ok () ∧
    HasFlag [flag .sh] ∧
    (run plainHost (fun _ => "now") {} [flag .sh] [0x61, 0]).ShowsAlike
      (run fullLogHost (fun _ => "then") {} [flag .sh] [0x61, 0]) := by
  have hplain : Settings.loadHere plainHost = .ok {} := eq_ok_of_toOption (by decide +kernel)
  have hfull : Settings.loadHere fullLogHost = .ok fullLogSettings :=
    eq_ok_of_toOption (by decide +kernel)
  have hopen : (openLog fullLogHost {} fullLogSettings).2 = .ok () :=
    eq_ok_of_toOption (by decide +kernel)
  have hflag : HasFlag [flag .sh] := ⟨.sh, by decide⟩
  exact ⟨hplain, rfl, hfull, hopen, hflag,
    (environment_not_shown hplain rfl hfull hopen).1 (.inl hflag)⟩

end

end ShellWord.Command
