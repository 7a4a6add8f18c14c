import ShellWord.Proofs.Loading
import ShellWord.Proofs.WordList

/-!
# The status of a run

A run ends with a status: 0 if it prints, 1 if the settings, the log or a word is refused, 2 if the
arguments are. `KeepsStatusRule` says so of one run. Not every run keeps the rule: one that meets a
fault which it does not report, on the way to a settings file or to the log, breaks off. `Breaks`
tells which runs these are.
-/

namespace ShellWord

/-! ## Opening the log -/

/-- The log is at a path with a zero character, and making the directory above it does not fail
for another reason. -/
def Host.LogBreaks (host : Host) (s : Settings) : Prop :=
  ∃ p, s.log = some p ∧ p.HasNul ∧
    (p.parent.HasNul ∨ (host.tree.makeDirectories host.cwd p.parent).2 = .ok ())

namespace Command

section

variable {host : Host} {clock : Nat → String} {journal : Journal} {arguments : List Text}
  {stdin : Bytes} {args : Arguments} {s : Settings}

/-- The world in which a run opens the log, and whether it can. -/
def openLog (host : Host) (journal : Journal) (s : Settings) :
    Journal.World × Except FileError Unit :=
  Journal.World.configure ⟨journal, host.tree⟩ host.cwd s

theorem openLog_nul_iff :
    (∃ e, (openLog host journal s).2 = .error e ∧ e.fault = .nul) ↔ host.LogBreaks s := by
  rw [openLog, Journal.World.configure, Host.LogBreaks]
  cases s.log with
  | none => simp
  | some p =>
    simp only [Option.some.injEq, exists_eq_left']
    -- the directory above is made first; it has the zero character too, or it can only fail for
    -- another reason
    by_cases hparent : p.parent.HasNul
    · simp [FileTree.makeDirectories_of_hasNul hparent, hparent, hparent.of_parent]
    · cases hmade : host.tree.makeDirectories host.cwd p.parent with
      | mk tree result =>
        cases result with
        | error e =>
          have hfault := FileTree.makeDirectories_error_ne_nul hparent (congrArg Prod.snd hmade)
          simp [hparent, hfault]
        | ok _ =>
          have hopen : (∃ e, tree.openAppend host.cwd p = .error e ∧ e.fault = .nul) ↔ p.HasNul :=
            FileTree.openAppend_error_nul_iff
          simp only [or_true, and_true]
          rw [← hopen]
          cases tree.openAppend host.cwd p <;> simp

/-! ## The stages of a run -/

/-- The first argument asks how the command is used. -/
abbrev AsksForHelp (arguments : List Text) : Prop :=
  arguments.head? = some (Text.ofString "-h") ∨ arguments.head? = some (Text.ofString "--help")

/-- The arguments ask for words to be quoted. -/
def Reads (arguments : List Text) (args : Arguments) : Prop :=
  ¬ AsksForHelp arguments ∧ Arguments.read arguments = .ok args

/-- The words that are quoted: those of the arguments, or else the standard input. -/
def Arguments.inputs (args : Arguments) (stdin : Bytes) : List Bytes :=
  if args.words.isEmpty then [stdin] else args.words

theorem run_of_help (h : AsksForHelp arguments) :
    run host clock journal arguments stdin =
      { ending := .status 0, output := ascii (usage ++ "\n"), world := ⟨journal, host.tree⟩ } := by
  rw [run, if_pos h]

theorem run_of_refused {e : ArgumentError} (hhelp : ¬ AsksForHelp arguments)
    (hread : Arguments.read arguments = .error e) :
    run host clock journal arguments stdin =
      { ending := .status 2, errors := complaint (e.message ++ Text.ofString s!"\n{usage}"),
        world := ⟨journal, host.tree⟩ } := by
  rw [run, if_neg hhelp, hread]

theorem run_of_unloaded {e : LoadError} (hread : Reads arguments args)
    (hload : Settings.loadHere host = .error e) (hreported : isReported e = true) :
    run host clock journal arguments stdin =
      { ending := .status 1, errors := complaint (Text.ofString s!"config error: {e.message}"),
        world := ⟨journal, host.tree⟩ } := by
  rw [run, if_neg hread.1, hread.2, hload]
  exact if_pos hreported

theorem run_of_breaksOff (hread : Reads arguments args) (h : BreaksOff (Settings.loadHere host)) :
    ∃ e, run host clock journal arguments stdin =
      { ending := .broken (.load e), world := ⟨journal, host.tree⟩ } := by
  obtain ⟨e, hload, hreported⟩ := h
  refine ⟨e, ?_⟩
  rw [run, if_neg hread.1, hread.2, hload]
  exact if_neg (Bool.not_eq_true _ ▸ hreported)

theorem run_of_loaded (hread : Reads arguments args) (hload : Settings.loadHere host = .ok s) :
    run host clock journal arguments stdin = runWith host clock args stdin journal s := by
  rw [run, if_neg hread.1, hread.2, hload]

theorem runWith_of_unopened {e : FileError} (hlog : (openLog host journal s).2 = .error e)
    (hfault : e.fault ≠ .nul) :
    runWith host clock args stdin journal s =
      { ending := .status 1, world := (openLog host journal s).1
        errors := complaint
          (Text.ofString s!"config error: cannot open log: {e.message}") } := by
  rw [runWith, ← openLog]
  rw [← Prod.mk.eta (p := openLog host journal s), hlog]
  exact if_neg hfault

theorem runWith_of_nul {e : FileError} (hlog : (openLog host journal s).2 = .error e)
    (hfault : e.fault = .nul) :
    runWith host clock args stdin journal s =
      { ending := .broken (.file e), world := (openLog host journal s).1 } := by
  rw [runWith, ← openLog]
  rw [← Prod.mk.eta (p := openLog host journal s), hlog]
  exact if_pos hfault

theorem runWith_of_opened (hlog : (openLog host journal s).2 = .ok ()) :
    runWith host clock args stdin journal s =
      print clock (args.dialect.getD s.effectiveDialect) args.words stdin
        (openLog host journal s).1 := by
  rw [runWith, ← openLog]
  rw [← Prod.mk.eta (p := openLog host journal s), hlog]

theorem print_of_refused {d : Dialect} {w : Journal.World} {e : NulByte}
    (h : (args.inputs stdin).mapM d.quote = .error e) :
    print clock d args.words stdin w =
      { ending := .status 1, errors := complaint (Text.ofString e.message),
        world := (quoteWords clock d w (args.inputs stdin)).1 } := by
  have hsnd : (quoteWords clock d w (args.inputs stdin)).2 = _ := quoteWords_snd w _
  rw [h] at hsnd
  rw [print, ← Arguments.inputs, ← Prod.mk.eta (p := quoteWords clock d w _), hsnd]
  rfl

theorem print_of_quoted {d : Dialect} {w : Journal.World} {quoted : List Bytes}
    (h : (args.inputs stdin).mapM d.quote = .ok quoted) :
    print clock d args.words stdin w =
      { ending := .status 0, output := List.intercalate [0x20] quoted ++ [0x0A],
        world := (quoteWords clock d w (args.inputs stdin)).1 } := by
  have hsnd : (quoteWords clock d w (args.inputs stdin)).2 = _ := quoteWords_snd w _
  rw [h] at hsnd
  rw [print, ← Arguments.inputs, ← Prod.mk.eta (p := quoteWords clock d w _), hsnd]
  rfl

end

/-! ## The rule -/

/-- A run is refused: it ends with a status, prints nothing and gives one message. -/
structure Report.Refuses (r : Report) (code : Nat) (message : Text) : Prop where
  ending : r.ending = .status code
  output : r.output = []
  errors : r.errors = complaint message

/-- The rule about the status of a run. Whatever goes wrong has a status and a message. -/
structure KeepsStatusRule (host : Host) (clock : Nat → String) (journal : Journal)
    (arguments : List Text) (stdin : Bytes) : Prop where
  /-- A run ends with one of three statuses. -/
  defined : ∃ n ≤ 2, (run host clock journal arguments stdin).ending = .status n
  misuse : ∀ e, ¬ AsksForHelp arguments → Arguments.read arguments = .error e →
    (run host clock journal arguments stdin).Refuses 2
      (e.message ++ Text.ofString s!"\n{usage}")
  settings : ∀ args e, Reads arguments args → Settings.loadHere host = .error e →
    (run host clock journal arguments stdin).Refuses 1
      (Text.ofString s!"config error: {e.message}")
  log : ∀ args s e, Reads arguments args → Settings.loadHere host = .ok s →
    (openLog host journal s).2 = .error e →
      (run host clock journal arguments stdin).Refuses 1
        (Text.ofString s!"config error: cannot open log: {e.message}")
  zeroByte : ∀ args s word, Reads arguments args → Settings.loadHere host = .ok s →
    (openLog host journal s).2 = .ok () → word ∈ args.inputs stdin → 0 ∈ word →
      ∃ e : NulByte, (run host clock journal arguments stdin).Refuses 1
        (Text.ofString e.message)

/-- A run breaks off: it gets to the settings, and meets a fault there or at the log that it does
not report. -/
def Breaks (host : Host) (arguments : List Text) : Prop :=
  ∃ args, Reads arguments args ∧
    (host.SettingsBreak ∨ ∃ s, Settings.loadHere host = .ok s ∧ host.LogBreaks s)

section

variable {host : Host} {clock : Nat → String} {journal : Journal} {arguments : List Text}
  {stdin : Bytes} {args : Arguments} {s : Settings}

/-- A run that breaks off has no status, and has printed nothing. -/
theorem Breaks.ending (h : Breaks host arguments) :
    ∃ b, (run host clock journal arguments stdin).ending = .broken b ∧
      (run host clock journal arguments stdin).output = [] ∧
        (run host clock journal arguments stdin).errors = [] := by
  obtain ⟨args, hread, hsettings | ⟨s, hload, hlog⟩⟩ := h
  · obtain ⟨e, hrun⟩ := run_of_breaksOff hread (Settings.breaksOff_loadHere.2 hsettings)
    rw [hrun]
    exact ⟨_, rfl, rfl, rfl⟩
  · obtain ⟨e, hopen, hfault⟩ : ∃ e, (openLog host journal s).2 = .error e ∧ e.fault = .nul :=
      openLog_nul_iff.2 hlog
    rw [run_of_loaded hread hload, runWith_of_nul hopen hfault]
    exact ⟨_, rfl, rfl, rfl⟩

theorem isReported_of_not_breaks (h : ¬ Breaks host arguments) (hread : Reads arguments args)
    {e : LoadError} (hload : Settings.loadHere host = .error e) : isReported e = true := by
  by_contra hreported
  exact h ⟨args, hread, .inl (Settings.breaksOff_loadHere.1 ⟨e, hload, by simpa using hreported⟩)⟩

theorem fault_ne_nul_of_not_breaks (h : ¬ Breaks host arguments) (hread : Reads arguments args)
    (hload : Settings.loadHere host = .ok s) {e : FileError}
    (hlog : (openLog host journal s).2 = .error e) : e.fault ≠ .nul := by
  intro hfault
  exact h ⟨args, hread, .inr ⟨s, hload, openLog_nul_iff.1 ⟨e, hlog, hfault⟩⟩⟩

theorem status_of_not_breaks (h : ¬ Breaks host arguments) :
    ∃ n ≤ 2, (run host clock journal arguments stdin).ending = .status n := by
  by_cases hhelp : AsksForHelp arguments
  · exact ⟨0, by decide, by rw [run_of_help hhelp]⟩
  cases hargs : Arguments.read arguments with
  | error e => exact ⟨2, by decide, by rw [run_of_refused hhelp hargs]⟩
  | ok args =>
    have hread : Reads arguments args := ⟨hhelp, hargs⟩
    cases hload : Settings.loadHere host with
    | error e =>
      refine ⟨1, by decide, ?_⟩
      rw [run_of_unloaded hread hload (isReported_of_not_breaks h hread hload)]
    | ok s =>
      rw [run_of_loaded hread hload]
      cases hlog : (openLog host journal s).2 with
      | error e =>
        refine ⟨1, by decide, ?_⟩
        rw [runWith_of_unopened hlog (fault_ne_nul_of_not_breaks h hread hload hlog)]
      | ok _ =>
        rw [runWith_of_opened hlog]
        cases hquoted : (args.inputs stdin).mapM
            (args.dialect.getD s.effectiveDialect).quote with
        | error e => exact ⟨1, by decide, by rw [print_of_refused hquoted]⟩
        | ok quoted => exact ⟨0, by decide, by rw [print_of_quoted hquoted]⟩

/-- The rule holds for exactly the runs that do not break off, and those that do have no status at
all. -/
theorem status_rule_iff_not_breaks :
    (KeepsStatusRule host clock journal arguments stdin ↔ ¬ Breaks host arguments) ∧
      (Breaks host arguments → ∃ b,
        (run host clock journal arguments stdin).ending = .broken b ∧
          (run host clock journal arguments stdin).output = [] ∧
            (run host clock journal arguments stdin).errors = []) := by
  refine ⟨⟨fun hrule hbreaks => ?_, fun h => ?_⟩, fun h => h.ending⟩
  -- no run both ends with a status and breaks off
  · obtain ⟨n, _, hstatus⟩ := hrule.defined
    obtain ⟨b, hbroken, _⟩ : ∃ b, (run host clock journal arguments stdin).ending = .broken b ∧ _ :=
      hbreaks.ending
    rw [hstatus] at hbroken
    cases hbroken
  · constructor
    case defined => exact status_of_not_breaks h
    case misuse =>
      intro e hhelp hargs
      rw [run_of_refused hhelp hargs]
      exact ⟨rfl, rfl, rfl⟩
    case settings =>
      intro args e hread hload
      rw [run_of_unloaded hread hload (isReported_of_not_breaks h hread hload)]
      exact ⟨rfl, rfl, rfl⟩
    case log =>
      intro args s e hread hload hlog
      rw [run_of_loaded hread hload,
        runWith_of_unopened hlog (fault_ne_nul_of_not_breaks h hread hload hlog)]
      exact ⟨rfl, rfl, rfl⟩
    case zeroByte =>
      intro args s word hread hload hlog hword hzero
      obtain ⟨e, hquoted⟩ := Dialect.mapM_quote_eq_error
        (d := args.dialect.getD s.effectiveDialect) ⟨word, hword, hzero⟩
      rw [run_of_loaded hread hload, runWith_of_opened hlog, print_of_refused hquoted]
      exact ⟨e, rfl, rfl, rfl⟩

/-- A run does not end with a status if the environment names a settings file at the home directory
of an unknown user. -/
theorem status_rule_fails_at_unknown_user :
    ¬ KeepsStatusRule
      ⟨⟨[(["work"], .directory)]⟩, ["work"], ⟨"/home", []⟩, some "~nosuchuser_x/y"⟩
      (fun _ => "") {} [Text.ofString "a"] [] := by
  have hbroken : ((run
      ⟨⟨[(["work"], .directory)]⟩, ["work"], ⟨"/home", []⟩, some "~nosuchuser_x/y"⟩
      (fun _ => "") {} [Text.ofString "a"] []).ending matches .status _) = false := by
    decide +kernel
  intro hrule
  obtain ⟨n, _, hstatus⟩ := hrule.defined
  rw [hstatus] at hbroken
  cases hbroken

end

end Command

end ShellWord
