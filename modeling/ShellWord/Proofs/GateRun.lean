import ShellWord.Proofs.Decoding
import ShellWord.Proofs.FileList
import ShellWord.Proofs.Findings

/-!
# What the style gate reports

A run of the gate passes if there is a Python file and each of them can be parsed and has no
finding. Otherwise it prints the findings of all files in order, or, if one cannot be parsed, the
first such file and nothing else. `GateRule` says so of one run. A run keeps the rule unless it
breaks off before, at a path that is too long or at a call of `decode` for an integer that is.
-/

namespace ShellWord

theorem mem_of_mem_unifyNewlines {c : Char} {text : List Char} (h : c ∈ unifyNewlines text) :
    c = '\n' ∨ c ∈ text := by
  fun_induction unifyNewlines text with
  | case1 rest ih | case2 rest _ ih | case3 c' rest _ _ ih =>
    rcases List.mem_cons.1 h with rfl | h
    · simp
    · exact (ih h).imp_right fun hmem => by simp [hmem]
  | case4 => cases h

theorem unifyNewlines_eq_self {text : List Char} (h : '\r' ∉ text) : unifyNewlines text = text := by
  fun_induction unifyNewlines text with
  | case1 | case2 => simp at h
  | case3 c rest _ _ ih => rw [ih (List.not_mem_of_not_mem_cons h)]
  | case4 => rfl

namespace StyleCheck

/-- A Python file below a directory, by the names on the way to it, with its source. -/
structure SourceFile where
  names : List String
  source : List Char

/-- A Python file can be parsed. -/
abbrev SourceFile.Parses (f : SourceFile) : Prop := (parse? f.source).isSome = true

/-- A Python file lies below a directory, and has this source. -/
def HoldsSource (t : FileTree) (d : Location) (f : SourceFile) : Prop :=
  isPythonName f.names = true ∧ ∃ content text, t.get? (d ++ f.names) = some (.file content) ∧
    Utf8.decode? content = .ok text ∧ f.source = unifyNewlines text

/-- What is named like a Python file below a directory is a regular file of text in UTF-8, without
zero characters. -/
def HoldsTexts (t : FileTree) (d : Location) : Prop :=
  ∀ names e, isPythonName names = true → t.get? (d ++ names) = some e →
    ∃ content text, e = .file content ∧ Utf8.decode? content = .ok text ∧ '\x00' ∉ text

/-- All Python files below a directory, in the order of their names, compared one by one. -/
structure ListsSources (t : FileTree) (d : Location) (files : List SourceFile) : Prop where
  sorted : (files.map SourceFile.names).Pairwise (· < ·)
  mem_iff : ∀ f, f ∈ files ↔ HoldsSource t d f

/-- What a run is to report about the Python files below the directory at a path. -/
structure GateRule (start : Path) (files : List SourceFile) (r : Report) : Prop where
  ends : r.ending = .status 0 ∨ r.ending = .status 1
  passes_iff : r.ending = .status 0 ↔
    files ≠ [] ∧ ∀ f ∈ files, f.Parses ∧ checkSource f.source = .ok []
  lists : files ≠ [] → (∀ f ∈ files, f.Parses) → ∃ found : SourceFile → List Finding,
    (∀ f ∈ files, checkSource f.source = .ok (found f)) ∧
    r.output = String.join (files.flatMap fun f =>
      (found f).map (findingLine (start.below f.names)))
  refuses : ∀ before f after, files = before ++ f :: after → (∀ b ∈ before, b.Parses) →
    ¬ f.Parses →
    r = ⟨.status 1, s!"Syntax error in {(start.below f.names).toString}\n"⟩
  misses : files = [] → r.output = s!"No Python files found in: {start.toString}\n"

/-- The check of a Python file breaks off: its path is too long, or it calls `decode` for an integer
that has too many digits. -/
def SourceFile.Breaks (start : Path) (f : SourceFile) : Prop :=
  (start.below f.names).isTooLong = true ∨
    ∃ tree, parse? f.source = some tree ∧ tree.HoldsLongDecode

/-- A run breaks off: a directory cannot be listed for the length of its path, or a file that breaks
off comes before any that cannot be parsed. -/
def BreaksOff (t : FileTree) (d : Location) (start : Path) (files : List SourceFile) : Prop :=
  HoldsUnreadable t d start ∨ ∃ before f after, files = before ++ f :: after ∧
    (∀ b ∈ before, b.Parses) ∧ f.Breaks start

/-- A Python file is reported with its findings. -/
def SourceFile.IsReported (start : Path) (f : SourceFile) : Prop := ¬ f.Breaks start ∧ f.Parses

variable {t : FileTree} {cwd d : Location} {start : Path} {f : SourceFile}
  {files before after : List SourceFile}

/-! ## The files -/

theorem exists_holdsSource (htexts : HoldsTexts t d) {names : List String} {e : Entry}
    (hpython : isPythonName names = true) (hentry : t.get? (d ++ names) = some e) :
    ∃ source, HoldsSource t d ⟨names, source⟩ := by
  obtain ⟨content, text, rfl, htext, -⟩ := htexts names e hpython hentry
  exact ⟨_, hpython, content, text, hentry, htext, rfl⟩

theorem HoldsSource.unique {source : List Char} (h : HoldsSource t d f)
    (h' : HoldsSource t d ⟨f.names, source⟩) : f = ⟨f.names, source⟩ := by
  obtain ⟨names, source'⟩ := f
  obtain ⟨-, content, text, hfile, htext, rfl⟩ := h
  obtain ⟨-, content', text', hfile', htext', rfl⟩ := h'
  cases hfile.symm.trans hfile'
  cases htext.symm.trans htext'
  rfl

theorem HoldsSource.nul_notMem (htexts : HoldsTexts t d) (h : HoldsSource t d f) :
    '\x00' ∉ f.source := by
  obtain ⟨hpython, content, text, hfile, htext, hsource⟩ := h
  obtain ⟨content', text', hcontent, htext', hnul⟩ := htexts _ _ hpython hfile
  cases hcontent
  cases htext.symm.trans htext'
  rw [hsource]
  exact fun hmem => (mem_of_mem_unifyNewlines hmem).elim (by decide) hnul

theorem exists_listsSources (hdistinct : (t.entries.map Prod.fst).Nodup) (htexts : HoldsTexts t d) :
    ∃ files, files.map SourceFile.names = pythonNames t d ∧ ListsSources t d files := by
  have hsource : ∀ names ∈ pythonNames t d, ∃ source, HoldsSource t d ⟨names, source⟩ := by
    intro names hnames
    obtain ⟨hpython, e, hentry⟩ := mem_pythonNames_iff.1 hnames
    exact exists_holdsSource htexts hpython hentry
  choose! source hsource using hsource
  have hnames : ((pythonNames t d).map fun names => ⟨names, source names⟩).map SourceFile.names =
      pythonNames t d := by
    simp [Function.comp_def]
  refine ⟨_, hnames, ?_, fun f => ?_⟩
  · rw [hnames]
    exact pairwise_pythonNames hdistinct
  rw [List.mem_map]
  constructor
  · rintro ⟨names, hmem, rfl⟩
    exact hsource names hmem
  · intro hf
    obtain ⟨hpython, content, -, hfile, -⟩ := id hf
    have hmem : f.names ∈ pythonNames t d := mem_pythonNames_iff.2 ⟨hpython, _, hfile⟩
    exact ⟨f.names, hmem, (hf.unique (hsource _ hmem)).symm⟩

/-! ## One file -/

/-- The lines that a run prints for one file. -/
def fileLines (t : FileTree) (cwd : Location) (p : Path) : Except Fault (List String) := do
  return (← checkFile t cwd p).map (findingLine p)

/-- All files are checked one by one. -/
theorem checkFiles_eq (files : List SourceFile) :
    checkFiles t cwd (files.map fun f => start.below f.names) =
      (files.mapM fun f => fileLines t cwd (start.below f.names)).map List.flatten := by
  rw [checkFiles, List.mapM_map]
  rfl

section

variable (hwf : t.WellFormed) (hstart : t.find cwd start = .ok (d, .directory))
  (htexts : HoldsTexts t d)

include hwf hstart

theorem checkFile_below (hf : HoldsSource t d f) :
    checkFile t cwd (start.below f.names) =
      if (start.below f.names).isTooLong then
        .error (.file ⟨.nameTooLong, (start.below f.names).toString⟩)
      else (checkSource f.source).mapError (.source (start.below f.names)) := by
  obtain ⟨-, content, text, hfile, htext, hsource⟩ := hf
  rw [checkFile, FileTree.read_below hwf hstart hfile, hsource]
  split_ifs
  · rfl
  · simp [htext, Except.mapError, bind, Except.bind]

include htexts

/-- A file that can be parsed is reported. -/
theorem fileLines_of_isReported (hf : HoldsSource t d f) (hreported : f.IsReported start) :
    ∃ found, checkSource f.source = .ok found ∧
      fileLines t cwd (start.below f.names) =
        .ok (found.map (findingLine (start.below f.names))) := by
  obtain ⟨hshort, hdecode⟩ := not_or.1 hreported.1
  obtain ⟨tree, htree⟩ := Option.isSome_iff_exists.1 hreported.2
  obtain ⟨found, hfound, -⟩ := Node.exists_findings_of_not_holdsLongDecode fun hlong =>
    hdecode ⟨tree, htree, hlong⟩
  have hcheck : checkSource f.source = .ok found := by
    rw [checkSource_eq_findings (hf.nul_notMem htexts) htree, hfound]
  refine ⟨found, hcheck, ?_⟩
  rw [fileLines, checkFile_below hwf hstart hf, if_neg hshort, hcheck]
  rfl

/-- A file that cannot be parsed is refused. -/
theorem fileLines_of_not_parses (hf : HoldsSource t d f) (hbreaks : ¬ f.Breaks start)
    (hparses : ¬ f.Parses) :
    fileLines t cwd (start.below f.names) =
      .error (.source (start.below f.names) .syntaxError) := by
  obtain ⟨hshort, -⟩ := not_or.1 hbreaks
  have hnul := hf.nul_notMem htexts
  have hcheck : checkSource f.source = .error .syntaxError := by
    rw [checkSource, if_neg (by simpa using hnul), Option.not_isSome_iff_eq_none.1 hparses]
  rw [fileLines, checkFile_below hwf hstart hf, if_neg hshort, hcheck]
  rfl

/-- A file at which the check breaks off is refused for a fault that is not reported. -/
theorem fileLines_of_breaks (hf : HoldsSource t d f) (hbreaks : f.Breaks start) :
    ∃ fault, fileLines t cwd (start.below f.names) = .error fault ∧
      ∀ p, fault ≠ .source p .syntaxError := by
  rw [fileLines, checkFile_below hwf hstart hf]
  by_cases hlong : (start.below f.names).isTooLong = true
  · rw [if_pos hlong]
    exact ⟨_, rfl, by simp⟩
  · obtain ⟨tree, htree, hdecode⟩ := hbreaks.resolve_left hlong
    rw [if_neg hlong, checkSource_eq_findings (hf.nul_notMem htexts) htree,
      Node.findings_of_holdsLongDecode hdecode]
    exact ⟨_, rfl, by simp⟩

/-! ## All files -/

theorem checkFiles_of_isReported (hholds : ∀ f ∈ files, HoldsSource t d f)
    (hreported : ∀ f ∈ files, f.IsReported start) :
    ∃ found : SourceFile → List Finding, (∀ f ∈ files, checkSource f.source = .ok (found f)) ∧
      checkFiles t cwd (files.map fun f => start.below f.names) =
        .ok (files.flatMap fun f => (found f).map (findingLine (start.below f.names))) := by
  have hfile : ∀ f ∈ files, ∃ found, checkSource f.source = .ok found ∧
      fileLines t cwd (start.below f.names) =
        .ok (found.map (findingLine (start.below f.names))) := fun f hf =>
    fileLines_of_isReported hwf hstart htexts (hholds f hf) (hreported f hf)
  choose! found hfound hlines using hfile
  refine ⟨found, hfound, ?_⟩
  rw [checkFiles_eq, mapM_eq_ok_map hlines, List.flatMap_def]
  rfl

/-- The first file that is not reported decides. -/
theorem checkFiles_of_first {fault : Fault} (hholds : ∀ b ∈ before, HoldsSource t d b)
    (hreported : ∀ b ∈ before, b.IsReported start)
    (hf : fileLines t cwd (start.below f.names) = .error fault) (after : List SourceFile) :
    checkFiles t cwd ((before ++ f :: after).map fun f => start.below f.names) = .error fault := by
  have hbefore : ∀ b ∈ before, ∃ lines, fileLines t cwd (start.below b.names) = .ok lines := by
    intro b hb
    obtain ⟨found, -, hlines⟩ :=
      fileLines_of_isReported hwf hstart htexts (hholds b hb) (hreported b hb)
    exact ⟨_, hlines⟩
  rw [checkFiles_eq, mapM_of_first_error hbefore hf]
  rfl

end

/-- Either all files are reported, or there is a first that is not. -/
theorem forall_isReported_or_exists_first (start : Path) (files : List SourceFile) :
    (∀ f ∈ files, f.IsReported start) ∨ ∃ before f after, files = before ++ f :: after ∧
      (∀ b ∈ before, b.IsReported start) ∧ ¬ f.IsReported start := by
  classical
  cases hfind : files.find? fun f => decide (¬ f.IsReported start) with
  | none =>
    have hnone := List.find?_eq_none.1 hfind
    exact .inl fun f hf => by simpa using hnone f hf
  | some f =>
    obtain ⟨hf, before, after, hsplit, hbefore⟩ := List.find?_eq_some_iff_append.1 hfind
    refine .inr ⟨before, f, after, hsplit, fun b hb => ?_, by simpa using hf⟩
    simpa using hbefore b hb

/-! ## A run -/

/-- A fault that is not one of syntax is not reported. -/
theorem reportOn_of_error {paths : List Path} {fault : Fault}
    (h : checkFiles t cwd paths = .error fault) (hfault : ∀ p, fault ≠ .source p .syntaxError) :
    reportOn t cwd paths = ⟨.broken fault, ""⟩ := by
  rw [reportOn, h]
  split
  · next heq => cases heq
  · next heq => cases heq
  · next p heq =>
    cases heq
    exact absurd rfl (hfault p)
  · next fault heq =>
    cases heq
    rfl

theorem reportOn_of_ok {paths : List Path} {lines : List String}
    (h : checkFiles t cwd paths = .ok lines) :
    reportOn t cwd paths = ⟨.status (if lines = [] then 0 else 1), String.join lines⟩ := by
  rw [reportOn, h]
  cases lines with
  | nil => rfl
  | cons line rest => rfl

theorem run_eq {arguments : List String}
    (hstart : t.find cwd (startDirectory arguments) = .ok (d, .directory))
    (hread : ¬ HoldsUnreadable t d (startDirectory arguments))
    (hnames : files.map SourceFile.names = pythonNames t d) :
    run t cwd arguments =
      if files = [] then
        ⟨.status 1, s!"No Python files found in: {(startDirectory arguments).toString}\n"⟩
      else reportOn t cwd (files.map fun f => (startDirectory arguments).below f.names) := by
  have hpaths : (pythonNames t d).map (startDirectory arguments).below =
      files.map fun f => (startDirectory arguments).below f.names := by
    rw [← hnames, List.map_map]
    rfl
  rw [run, pythonFiles_eq hstart hread, hpaths]
  cases files with
  | nil => rfl
  | cons f rest => rfl

theorem GateRule.not_broken {r : Report} {fault : Fault} (h : GateRule start files r) :
    r.ending ≠ .broken fault := by
  intro hbroken
  have hends := h.ends
  simp [hbroken] at hends

/-- All files are reported. -/
theorem gateRule_of_isReported {found : SourceFile → List Finding} (hne : files ≠ [])
    (hreported : ∀ f ∈ files, f.IsReported start)
    (hfound : ∀ f ∈ files, checkSource f.source = .ok (found f))
    (hcheck : checkFiles t cwd (files.map fun f => start.below f.names) =
      .ok (files.flatMap fun f => (found f).map (findingLine (start.below f.names)))) :
    GateRule start files (reportOn t cwd (files.map fun f => start.below f.names)) := by
  rw [reportOn_of_ok hcheck]
  have hclean : (files.flatMap fun f => (found f).map (findingLine (start.below f.names))) = [] ↔
      ∀ f ∈ files, f.Parses ∧ checkSource f.source = .ok [] := by
    rw [List.flatMap_eq_nil_iff]
    refine forall₂_congr fun f hf => ?_
    rw [List.map_eq_nil_iff, hfound f hf, Except.ok.injEq]
    exact (and_iff_right (hreported f hf).2).symm
  constructor
  case ends =>
    dsimp only
    split_ifs <;> simp
  case passes_iff =>
    rw [← hclean]
    simp [hne]
  case lists => exact fun _ _ => ⟨found, hfound, rfl⟩
  case refuses =>
    rintro before f after rfl - hparses
    exact absurd (hreported f (by simp)).2 hparses
  case misses => exact fun hnil => absurd hnil hne

/-- The first file that is not reported cannot be parsed. -/
theorem gateRule_of_not_parses (hbefore : ∀ b ∈ before, b.IsReported start) (hparses : ¬ f.Parses) :
    GateRule start (before ++ f :: after)
      ⟨.status 1, s!"Syntax error in {(start.below f.names).toString}\n"⟩ := by
  constructor
  case ends => simp
  case passes_iff => exact iff_of_false (by simp) fun hall => hparses (hall.2 f (by simp)).1
  case lists => exact fun _ hall => absurd (hall f (by simp)) hparses
  case refuses =>
    intro before' f' after' hsplit hbefore' hf'
    rcases mem_or_eq_of_first hsplit (fun b hb => (hbefore b hb).2) hf' with hmem | rfl
    · exact absurd (hbefore' f hmem) hparses
    · rfl
  case misses => simp

theorem not_breaksOff_of_isReported (hread : ¬ HoldsUnreadable t d start)
    (hreported : ∀ f ∈ files, f.IsReported start) : ¬ BreaksOff t d start files := by
  rintro (hunread | ⟨before, f, after, rfl, -, hbreaks⟩)
  · exact hread hunread
  · exact (hreported f (by simp)).1 hbreaks

theorem not_breaksOff_of_not_parses (hread : ¬ HoldsUnreadable t d start)
    (hbefore : ∀ b ∈ before, b.IsReported start) (hbreaks : ¬ f.Breaks start)
    (hparses : ¬ f.Parses) : ¬ BreaksOff t d start (before ++ f :: after) := by
  rintro (hunread | ⟨before', f', after', hsplit, hbefore', hbreaks'⟩)
  · exact hread hunread
  · rcases mem_or_eq_of_first hsplit hbefore fun h => h.1 hbreaks' with hmem | rfl
    · exact hparses (hbefore' f hmem)
    · exact hbreaks hbreaks'

/-- The files are reported by the rule, unless the check of them breaks off. -/
theorem reportOn_keeps_or_breaks (hwf : t.WellFormed)
    (hstart : t.find cwd start = .ok (d, .directory)) (htexts : HoldsTexts t d)
    (hread : ¬ HoldsUnreadable t d start) (hne : files ≠ [])
    (hholds : ∀ f ∈ files, HoldsSource t d f) :
    (BreaksOff t d start files ∧ ∃ fault,
      reportOn t cwd (files.map fun f => start.below f.names) = ⟨.broken fault, ""⟩) ∨
    (¬ BreaksOff t d start files ∧
      GateRule start files (reportOn t cwd (files.map fun f => start.below f.names))) := by
  rcases forall_isReported_or_exists_first start files with
    hreported | ⟨before, f, after, rfl, hbefore, hf⟩
  · obtain ⟨found, hfound, hcheck⟩ :=
      checkFiles_of_isReported hwf hstart htexts hholds hreported
    exact .inr ⟨not_breaksOff_of_isReported hread hreported,
      gateRule_of_isReported hne hreported hfound hcheck⟩
  obtain ⟨hholdsBefore, hholdsRest⟩ := List.forall_mem_append.1 hholds
  have hholdsHere := hholdsRest f List.mem_cons_self
  by_cases hbreaks : f.Breaks start
  · obtain ⟨fault, hlines, hfault⟩ := fileLines_of_breaks hwf hstart htexts hholdsHere hbreaks
    have hcheck := checkFiles_of_first hwf hstart htexts hholdsBefore hbefore hlines after
    exact .inl ⟨.inr ⟨before, f, after, rfl, fun b hb => (hbefore b hb).2, hbreaks⟩, fault,
      reportOn_of_error hcheck hfault⟩
  · have hparses : ¬ f.Parses := fun hparses => hf ⟨hbreaks, hparses⟩
    have hlines := fileLines_of_not_parses hwf hstart htexts hholdsHere hbreaks hparses
    have hcheck := checkFiles_of_first hwf hstart htexts hholdsBefore hbefore hlines after
    refine .inr ⟨not_breaksOff_of_not_parses hread hbefore hbreaks hparses, ?_⟩
    rw [reportOn, hcheck]
    exact gateRule_of_not_parses hbefore hparses

theorem run_keeps_or_breaks {arguments : List String} (hwf : t.WellFormed)
    (hstart : t.find cwd (startDirectory arguments) = .ok (d, .directory)) (htexts : HoldsTexts t d)
    (hnames : files.map SourceFile.names = pythonNames t d) (hlists : ListsSources t d files) :
    (BreaksOff t d (startDirectory arguments) files ∧
      ∃ fault, run t cwd arguments = ⟨.broken fault, ""⟩) ∨
    (¬ BreaksOff t d (startDirectory arguments) files ∧
      GateRule (startDirectory arguments) files (run t cwd arguments)) := by
  by_cases hread : HoldsUnreadable t d (startDirectory arguments)
  · obtain ⟨e, he⟩ := pythonFiles_of_holdsUnreadable hstart hread
    exact .inl ⟨.inl hread, .file e, by rw [run, he]⟩
  rw [run_eq hstart hread hnames]
  by_cases hne : files = []
  · subst hne
    refine .inr ⟨not_breaksOff_of_isReported hread (by simp), ?_⟩
    rw [if_pos rfl]
    exact ⟨by simp, by simp, by simp, by simp, fun _ => rfl⟩
  · rw [if_neg hne]
    exact reportOn_keeps_or_breaks hwf hstart htexts hread hne fun f => (hlists.mem_iff f).1

/-- A run over a tree in which all that is named like a Python file is one keeps the rule exactly if
it does not break off, and one that breaks off reports nothing. -/
theorem gateRule_iff_not_breaksOff {arguments : List String} (hwf : t.WellFormed)
    (hdistinct : (t.entries.map Prod.fst).Nodup)
    (hstart : t.find cwd (startDirectory arguments) = .ok (d, .directory))
    (htexts : HoldsTexts t d) :
    ∃ files, ListsSources t d files ∧
      (GateRule (startDirectory arguments) files (run t cwd arguments) ↔
        ¬ BreaksOff t d (startDirectory arguments) files) ∧
      (BreaksOff t d (startDirectory arguments) files →
        ∃ fault, run t cwd arguments = ⟨.broken fault, ""⟩) := by
  obtain ⟨files, hnames, hlists⟩ := exists_listsSources hdistinct htexts
  refine ⟨files, hlists, ?_⟩
  rcases run_keeps_or_breaks hwf hstart htexts hnames hlists with
    ⟨hbreaks, fault, hrun⟩ | ⟨hbreaks, hrule⟩
  · refine ⟨iff_of_false (fun hrule => ?_) (not_not.2 hbreaks), fun _ => ⟨fault, hrun⟩⟩
    exact hrule.not_broken (congrArg Report.ending hrun)
  · exact ⟨iff_of_true hrule hbreaks, fun h => absurd h hbreaks⟩

/-- Two files with findings. As strings, their paths would come in the other order. -/
def twoPackages : FileTree where
  entries := [(["src"], .directory), (["src", "notes.txt"], .file [0xFF]),
    (["src", "a-b.py"], .file (Utf8.encodeString "import shlex\n")),
    (["src", "a"], .directory),
    (["src", "a", "b.py"], .file (Utf8.encodeString "x = y.decode('latin1')\r\nimport pipes\r\n"))]

theorem twoPackages_wellFormed : twoPackages.WellFormed where
  parents := by decide +kernel
  names := by decide +kernel
  paths := by decide +kernel
  targets := by decide +kernel

theorem twoPackages_holdsTexts : HoldsTexts twoPackages ["src"] := by
  intro names e hpython hentry
  have hmem := FileTree.mem_entries_of_get? (by simp) hentry
  simp only [twoPackages, List.cons_append, List.nil_append, List.mem_cons, Prod.mk.injEq,
    List.cons.injEq, true_and, List.not_mem_nil, or_false] at hmem
  rcases hmem with ⟨rfl, -⟩ | ⟨rfl, -⟩ | ⟨rfl, rfl⟩ | ⟨rfl, -⟩ | ⟨rfl, rfl⟩
  · exact absurd hpython (by decide)
  · exact absurd hpython (by decide)
  · exact ⟨_, _, rfl, Utf8.decode?_encodeString _, by decide⟩
  · exact absurd hpython (by decide)
  · exact ⟨_, _, rfl, Utf8.decode?_encodeString _, by decide⟩

/-- What a run over the two files prints. -/
def twoPackagesReport : Report where
  ending := .status 1
  output := "  src/a/b.py:2: import pipes: banned, use shellquote quoters\n" ++
    "  src/a/b.py:1: decode(latin-1): banned, quoted output is ASCII\n" ++
    "  src/a-b.py:1: import shlex: banned, use shellquote quoters\n"

theorem run_twoPackages : run twoPackages [] [] = twoPackagesReport := by
  have hstart : twoPackages.find [] (startDirectory []) = .ok (["src"], .directory) := by
    decide +kernel
  have hpath : startDirectory [] = ⟨.here, ["src"]⟩ := by decide
  have hnames : pythonNames twoPackages ["src"] = [["a", "b.py"], ["a-b.py"]] :=
    pythonNames_eq (by decide) (by decide +kernel)
  have hread := not_holdsUnreadable twoPackages_wellFormed [] ["src"]
  rw [run, pythonFiles_eq hstart (hpath ▸ hread), hnames, hpath]
  show reportOn twoPackages [] [⟨.here, ["src", "a", "b.py"]⟩, ⟨.here, ["src", "a-b.py"]⟩] = _
  decide +kernel

theorem gateRule_iff_not_breaksOff_twoPackages :
    ∃ files, ListsSources twoPackages ["src"] files ∧
      GateRule (startDirectory []) files (run twoPackages [] []) ∧
      run twoPackages [] [] = twoPackagesReport := by
  have hstart : twoPackages.find [] (startDirectory []) = .ok (["src"], .directory) := by
    decide +kernel
  obtain ⟨files, hlists, hrule, hbroken⟩ := gateRule_iff_not_breaksOff twoPackages_wellFormed
    (by decide) hstart twoPackages_holdsTexts
  refine ⟨files, hlists, hrule.2 fun hbreaks => ?_, run_twoPackages⟩
  obtain ⟨fault, hrun⟩ := hbroken hbreaks
  cases run_twoPackages.symm.trans hrun

/-- A file that calls `decode` for an integer with too many digits, before one that cannot be
parsed. -/
def longIntegerFirst : FileTree where
  entries := [(["src"], .directory),
    (["src", "a.py"], .file (Utf8.encodeString (String.ofList (decodeOfDigits 3600)))),
    (["src", "b.py"], .file (Utf8.encodeString "def f(:\n"))]

theorem longIntegerFirst_wellFormed : longIntegerFirst.WellFormed where
  parents := by decide +kernel
  names := by decide +kernel
  paths := by decide +kernel
  targets := by decide +kernel

theorem decode?_longIntegerFirst :
    Utf8.decode? (Utf8.encodeString (String.ofList (decodeOfDigits 3600))) =
      .ok (decodeOfDigits 3600) := by
  rw [Utf8.decode?_encodeString, String.toList_ofList]

theorem longIntegerFirst_holdsTexts : HoldsTexts longIntegerFirst ["src"] := by
  intro names e hpython hentry
  have hmem := FileTree.mem_entries_of_get? (by simp) hentry
  simp only [longIntegerFirst, List.cons_append, List.nil_append, List.mem_cons, Prod.mk.injEq,
    List.cons.injEq, true_and, List.not_mem_nil, or_false] at hmem
  rcases hmem with ⟨rfl, -⟩ | ⟨rfl, rfl⟩ | ⟨rfl, rfl⟩
  · exact absurd hpython (by decide)
  · exact ⟨_, _, rfl, decode?_longIntegerFirst, nul_notMem_decodeOfDigits⟩
  · exact ⟨_, _, rfl, Utf8.decode?_encodeString _, by decide⟩

/-- The two files. -/
def longIntegerFiles : List SourceFile :=
  [⟨["a.py"], decodeOfDigits 3600⟩, ⟨["b.py"], "def f(:\n".toList⟩]

theorem longIntegerFirst_holdsSource :
    ∀ f ∈ longIntegerFiles, HoldsSource longIntegerFirst ["src"] f := by
  refine List.forall_mem_cons.2 ⟨?_, List.forall_mem_singleton.2 ?_⟩
  · exact ⟨by decide, _, _, rfl, decode?_longIntegerFirst,
      (unifyNewlines_eq_self (by decide +kernel)).symm⟩
  · exact ⟨by decide, _, _, rfl, Utf8.decode?_encodeString _, by decide⟩

theorem pythonNames_longIntegerFirst :
    pythonNames longIntegerFirst ["src"] = longIntegerFiles.map SourceFile.names :=
  pythonNames_eq (by decide) (by decide +kernel)

theorem longIntegerFirst_lists : ListsSources longIntegerFirst ["src"] longIntegerFiles where
  sorted := by decide
  mem_iff f := by
    refine ⟨longIntegerFirst_holdsSource f, fun hf => ?_⟩
    obtain ⟨hpython, content, -, hfile, -⟩ := id hf
    have hnames : f.names ∈ longIntegerFiles.map SourceFile.names :=
      pythonNames_longIntegerFirst ▸ mem_pythonNames_iff.2 ⟨hpython, _, hfile⟩
    obtain ⟨g, hg, hsame⟩ := List.mem_map.1 hnames
    obtain ⟨names, source⟩ := f
    cases hsame
    exact (longIntegerFirst_holdsSource g hg).unique hf ▸ hg

/-- The second file cannot be parsed, and the first can. All the same it is the first that ends the
run, and nothing is reported. -/
theorem gateRule_fails_at_long_integer :
    longIntegerFirst.WellFormed ∧ HoldsTexts longIntegerFirst ["src"] ∧
      ListsSources longIntegerFirst ["src"] longIntegerFiles ∧
      (parse? (decodeOfDigits 3600)).isSome = true ∧ parse? "def f(:\n".toList = none ∧
      run longIntegerFirst [] [] =
        ⟨.broken (.source ⟨.here, ["src", "a.py"]⟩ .longInteger), ""⟩ := by
  have hstart : longIntegerFirst.find [] (startDirectory []) = .ok (["src"], .directory) := by
    decide +kernel
  have hpath : startDirectory [] = ⟨.here, ["src"]⟩ := by decide
  have hread := not_holdsUnreadable longIntegerFirst_wellFormed [] ["src"]
  obtain ⟨tree, htree, -, hfindings⟩ := exists_tree_decodeOfDigits
  have hlong : checkSource (decodeOfDigits 3600) = .error .longInteger := by
    rw [checkSource_eq_findings nul_notMem_decodeOfDigits htree, hfindings]
  have hlines : fileLines longIntegerFirst [] ((startDirectory []).below ["a.py"]) =
      .error (.source ⟨.here, ["src", "a.py"]⟩ .longInteger) := by
    have hcheck := checkFile_below longIntegerFirst_wellFormed hstart
      (longIntegerFirst_holdsSource _ List.mem_cons_self)
    rw [hlong, if_neg (by decide)] at hcheck
    rw [fileLines, hcheck]
    rfl
  have hcheck : checkFiles longIntegerFirst []
      (longIntegerFiles.map fun f => (startDirectory []).below f.names) =
      .error (.source ⟨.here, ["src", "a.py"]⟩ .longInteger) := by
    rw [checkFiles_eq, longIntegerFiles, List.mapM_cons, hlines]
    rfl
  refine ⟨longIntegerFirst_wellFormed, longIntegerFirst_holdsTexts, longIntegerFirst_lists,
    Option.isSome_iff_exists.2 ⟨tree, htree⟩, by decide +kernel, ?_⟩
  have hne : longIntegerFiles ≠ [] := List.cons_ne_nil _ _
  rw [run_eq hstart (hpath ▸ hread) pythonNames_longIntegerFirst.symm, if_neg hne]
  exact reportOn_of_error hcheck (by simp)

end StyleCheck

end ShellWord
