import ShellWord.Command.Run
import ShellWord.Proofs.NearestFile

/-!
# When loading the settings breaks off

The command reports what is wrong in a settings file, but not every fault that it meets on the way
to one. `Host.SettingsBreak` lists the surroundings in which it meets a fault that it does not
report, layer by layer; loading breaks off in these and in no others.
-/

namespace ShellWord

variable {α β : Type}

/-! ## Unreported faults -/

/-- A load fails for a fault that the command does not report. -/
def BreaksOff (x : Except LoadError α) : Prop := ∃ e, x = .error e ∧ Command.isReported e = false

@[simp]
theorem breaksOff_error {e : LoadError} :
    BreaksOff (.error e : Except LoadError α) ↔ Command.isReported e = false := by
  simp [BreaksOff]

@[simp]
theorem not_breaksOff_ok {a : α} : ¬ BreaksOff (.ok a) := by
  simp [BreaksOff]

@[simp]
theorem not_breaksOff_pure {a : α} : ¬ BreaksOff (pure a) := not_breaksOff_ok

/-- A load in two parts breaks off in the first part, or in the second after the first. -/
theorem breaksOff_bind {x : Except LoadError α} {f : α → Except LoadError β} :
    BreaksOff (x >>= f) ↔ BreaksOff x ∨ ∃ a, x = .ok a ∧ BreaksOff (f a) := by
  cases x with
  | error e => simp [bind, Except.bind]
  | ok a => simp [bind, Except.bind]

@[simp]
theorem breaksOff_map {x : Except LoadError α} {f : α → β} :
    BreaksOff (f <$> x) ↔ BreaksOff x := by
  cases x <;> simp [Functor.map, Except.map]

/-! ## Unknown users -/

/-- A path starts at the home directory of a user, and there is none of that name. -/
def Homes.Lack (homes : Homes) (p : Path) : Prop :=
  p.start = .here ∧ ∃ user rest, p.names = String.ofList ('~' :: user) :: rest ∧ user ≠ [] ∧
    '\x00' ∉ user ∧ homes.users.lookup (String.ofList user) = none

theorem Path.expandHome_eq_unknownUser_iff {homes : Homes} {p : Path} :
    p.expandHome homes = .error .unknownUser ↔ homes.Lack p := by
  constructor
  · intro h
    rw [expandHome] at h
    split at h
    · next first rest hstart hnames =>
      split at h
      · cases h
      · next user hown hfirst =>
        split_ifs at h with hnul
        · cases h
        split at h
        · cases h
        · next hlookup =>
          refine ⟨hstart, user, rest, ?_, ?_, ?_, hlookup⟩
          · rw [hnames, ← hfirst, String.ofList_toList]
          · rintro rfl
            exact hown rfl
          · simpa using hnul
      · cases h
    · cases h
  · rintro ⟨hstart, user, rest, hnames, huser, hnul, hlookup⟩
    rw [expandHome, hstart, hnames]
    cases user with
    | nil => exact absurd rfl huser
    | cons c user =>
      have hcontains : (c :: user).contains '\x00' = false := by
        rw [← Bool.not_eq_true, List.contains_iff_mem]
        exact hnul
      simp only [String.toList_ofList, hcontains, hlookup, Bool.false_eq_true, if_false]

theorem Homes.not_lack_empty {homes : Homes} : ¬ homes.Lack (Path.ofString "") := by
  rintro ⟨_, user, rest, hnames, _⟩
  rw [show (Path.ofString "").names = [] by decide] at hnames
  cases hnames

/-! ## The entries of a table -/

/-- A fold fails at the first element that is refused, after taking in those before. -/
theorem foldlM_eq_error_iff {σ ε : Type} {f : σ → α → Except ε σ} {s : σ} {l : List α} {e : ε} :
    l.foldlM f s = .error e ↔
      ∃ before x after s', l = before ++ x :: after ∧ before.foldlM f s = .ok s' ∧
        f s' x = .error e := by
  induction l generalizing s with
  | nil => simp [pure, Except.pure]
  | cons y l ih =>
    rw [List.foldlM_cons]
    cases hy : f s y with
    | error e' =>
      -- the fold ends here, with nothing taken in
      constructor
      · intro h
        exact ⟨[], y, l, s, rfl, rfl, hy.trans h⟩
      · rintro ⟨before, x, after, s', hl, hbefore, hx⟩
        cases before with
        | nil =>
          cases hl
          cases hbefore
          exact hy.symm.trans hx
        | cons z before =>
          cases hl
          simp [hy, bind, Except.bind] at hbefore
    | ok s₁ =>
      refine (ih (s := s₁)).trans ⟨?_, ?_⟩
      · rintro ⟨before, x, after, s', rfl, hbefore, hx⟩
        exact ⟨y :: before, x, after, s', rfl, by rw [List.foldlM_cons, hy]; exact hbefore, hx⟩
      · rintro ⟨before, x, after, s', hl, hbefore, hx⟩
        cases before with
        | nil =>
          cases hl
          cases hbefore
          rw [hy] at hx
          cases hx
        | cons z before =>
          cases hl
          rw [List.foldlM_cons, hy] at hbefore
          exact ⟨before, x, after, s', rfl, hbefore, hx⟩

namespace Settings

variable {homes : Homes} {text : String}

/-- An entry fails for an unknown user only if it is the log, at the home directory of one. -/
theorem setEntry_eq_unknownUser_iff {s : Settings} {key : String} {v : Toml.Value} :
    s.setEntry homes key v = .error (.home .unknownUser) ↔
      SettingsField.ofKey? key = some .log ∧ ∃ path, v = .text path ∧
        homes.Lack (Path.ofString path) := by
  rw [setEntry]
  cases hkey : SettingsField.ofKey? key with
  | none => simp
  | some field =>
    cases field with
    | dialect =>
      simp only [setDialect, reduceCtorEq, false_and, iff_false, Option.some.injEq]
      split
      · split <;> simp
      · simp
    | logFull =>
      simp only [setLogFull, reduceCtorEq, false_and, iff_false, Option.some.injEq]
      split <;> simp
    | log =>
      cases v with
      | text path =>
        simp only [setLog, true_and, Toml.Value.text.injEq, exists_eq_left',
          ← Path.expandHome_eq_unknownUser_iff]
        split_ifs with hpath
        · simp [hpath, Path.expandHome_eq_unknownUser_iff, Homes.not_lack_empty]
        · cases (Path.ofString path).expandHome homes <;> simp
      | _ => simp [setLog]

/-- A settings file keeps the log at the home directory of an unknown user; the entries before
that one are valid. -/
def LogsAtUnknownUser (homes : Homes) (text : String) : Prop :=
  ∃ before key path after s, Toml.table? text = some (before ++ (key, .text path) :: after) ∧
    ofTable homes before = .ok s ∧ SettingsField.ofKey? key = some .log ∧
      homes.Lack (Path.ofString path)

theorem ofText_eq_unknownUser_iff :
    ofText homes text = .error (.home .unknownUser) ↔ LogsAtUnknownUser homes text := by
  rw [ofText, LogsAtUnknownUser]
  cases htable : Toml.table? text with
  | none => simp
  | some table =>
    simp only [Option.some.injEq]
    rw [ofTable, foldlM_eq_error_iff]
    simp only [setEntry_eq_unknownUser_iff]
    constructor
    · rintro ⟨before, ⟨key, _⟩, after, s, rfl, hbefore, hkey, path, rfl, hpath⟩
      exact ⟨before, key, path, after, s, rfl, hbefore, hkey, hpath⟩
    · rintro ⟨before, key, path, after, s, rfl, hbefore, hkey, hpath⟩
      exact ⟨before, (key, .text path), after, s, rfl, hbefore, hkey, path, rfl, hpath⟩

end Settings

/-! ## One file -/

/-- What the file at a path holds when it is read as text. -/
def Host.Shows (host : Host) (p : Path) (text : String) : Prop :=
  ∃ content chars, host.tree.read host.cwd p = .ok content ∧ Utf8.decode? content = .ok chars ∧
    text = String.ofList (unifyNewlines chars)

theorem Host.Shows.isFile {host : Host} {p : Path} {text : String} (h : host.Shows p text) :
    host.tree.isFile host.cwd p = .ok true := by
  obtain ⟨content, _, hread, _⟩ := h
  exact FileTree.isFile_eq_true_iff.2 ⟨content, hread⟩

/-- A settings file may be at a path, and the command does not report what goes wrong there. -/
inductive Host.BreaksAt (host : Host) (p : Path) : Prop
  /-- The path is too long to be looked up, or a name in it is. -/
  | tooLong (h : host.tree.find host.cwd p = .error .nameTooLong)
  | unknownUser (text : String) (hshows : host.Shows p text)
      (hlog : Settings.LogsAtUnknownUser host.homes text)

/-- Where it can be asked for the file, only an unknown user goes unreported. -/
theorem Host.breaksAt_iff_of_isFile {host : Host} {p : Path} {found : Bool}
    (hfile : host.tree.isFile host.cwd p = .ok found) :
    host.BreaksAt p ↔
      ∃ text, host.Shows p text ∧ Settings.LogsAtUnknownUser host.homes text := by
  constructor
  · rintro (hfind | ⟨text, hshows, hlog⟩)
    · rw [FileTree.isFile_eq_error_iff.2 ⟨hfind, rfl⟩] at hfile
      cases hfile
    · exact ⟨text, hshows, hlog⟩
  · rintro ⟨text, hshows, hlog⟩
    exact .unknownUser text hshows hlog

namespace Settings

variable {host : Host} {p : Path}

theorem breaksOff_ofFile (hfile : host.tree.isFile host.cwd p = .ok true) :
    BreaksOff (ofFile host p) ↔ host.BreaksAt p := by
  obtain ⟨content, hread⟩ := FileTree.isFile_eq_true_iff.1 hfile
  rw [Host.breaksAt_iff_of_isFile hfile]
  simp only [ofFile, hread]
  cases hdecode : Utf8.decode? content with
  | error e => simp [Host.Shows, hread, hdecode, Command.isReported]
  | ok chars =>
    have hshows : ∀ text, host.Shows p text ↔ text = String.ofList (unifyNewlines chars) := by
      simp [Host.Shows, hread, hdecode]
    simp only [hshows, exists_eq_left, ← ofText_eq_unknownUser_iff]
    split
    · next s htext => simp [htext]
    · next htext => simp [htext, Command.isReported]
    · next e hother htext =>
      simp only [breaksOff_error, Command.isReported, Bool.true_eq_false, false_iff]
      intro h
      rw [htext] at h
      exact hother (Except.error.inj h)

theorem breaksOff_ofFileIfAny : BreaksOff (ofFileIfAny host p) ↔ host.BreaksAt p := by
  rw [ofFileIfAny]
  cases hfile : host.tree.isFile host.cwd p with
  | error e =>
    obtain ⟨hfind, rfl⟩ := FileTree.isFile_eq_error_iff.1 hfile
    simp [Command.isReported, Host.BreaksAt.tooLong hfind]
  | ok found =>
    cases found with
    | false =>
      rw [Host.breaksAt_iff_of_isFile hfile]
      simp only [not_breaksOff_pure, false_iff]
      rintro ⟨text, hshows, _⟩
      rw [hshows.isFile] at hfile
      cases hfile
    | true =>
      rw [← breaksOff_ofFile hfile]
      simp

end Settings

/-! ## All layers -/

section

variable {host : Host} {d p : Path} {paths : List Path}

/-- A search that gets as far as a path where the run breaks off ends there. -/
theorem Host.BreaksAt.firstFile (hbreaks : host.BreaksAt p) (hroot : p.start = .root)
    (hreaches : host.tree.Reaches paths p) :
    host.tree.firstFile paths = .error ⟨.nameTooLong, p.toString⟩ ∨
      host.tree.firstFile paths = .ok (some p) := by
  cases hbreaks with
  | tooLong hfind =>
    have hfile := FileTree.isFile_eq_error_iff.2 ⟨hfind, rfl⟩
    rw [FileTree.isFile_of_root hroot] at hfile
    exact .inl (FileTree.firstFile_eq_error_iff.2 ⟨p, hreaches, hfile⟩)
  | unknownUser text hshows hlog =>
    have hfile := hshows.isFile
    rw [FileTree.isFile_of_root hroot] at hfile
    exact .inr (FileTree.firstFile_eq_some_iff.2 ⟨hreaches, hfile⟩)

namespace Settings

/-- The layer of the project breaks off if the directory has no location, or at one of the files
that the search gets to. -/
theorem breaksOff_projectLayer :
    BreaksOff (projectLayer host d) ↔
      (∃ path, host.tree.resolve host.cwd d = .error (.linkLoop path)) ∨
        ∃ l p, host.tree.resolve host.cwd d = .ok l ∧
          host.tree.Reaches (projectFiles l.reverse) p ∧ host.BreaksAt p := by
  rw [projectLayer, breaksOff_bind, findProjectFile]
  cases hresolve : host.tree.resolve host.cwd d with
  | error e => cases e <;> simp [Command.isReported]
  | ok l =>
    have hroot : ∀ {p}, host.tree.Reaches (projectFiles l.reverse) p → p.start = .root :=
      fun h => start_of_mem_projectFiles h.mem
    simp only [nearestProjectFile_eq_firstFile, reduceCtorEq, exists_false, false_or,
      Except.ok.injEq, exists_and_left, exists_eq_left']
    constructor
    -- the search itself fails, or the file that it finds does
    · cases hfirst : host.tree.firstFile (projectFiles l.reverse) with
      | error e =>
        obtain ⟨p, hreaches, hfile⟩ := FileTree.firstFile_eq_error_iff.1 hfirst
        rw [← FileTree.isFile_of_root (hroot hreaches) host.cwd] at hfile
        exact fun _ => ⟨p, hreaches, .tooLong (FileTree.isFile_eq_error_iff.1 hfile).1⟩
      | ok found =>
        cases found with
        | none => simp
        | some p =>
          obtain ⟨hreaches, hfile⟩ := FileTree.firstFile_eq_some_iff.1 hfirst
          rw [← FileTree.isFile_of_root (hroot hreaches) host.cwd] at hfile
          simp only [not_breaksOff_ok, false_or, Except.ok.injEq, exists_eq_left', bind_pure_comp,
            breaksOff_map, breaksOff_ofFile hfile]
          exact fun hbreaks => ⟨p, hreaches, hbreaks⟩
    -- a path that the search gets to and that breaks off is what the search ends with
    · rintro ⟨p, hreaches, hbreaks⟩
      rcases hbreaks.firstFile (hroot hreaches) hreaches with hfirst | hfirst
      · simp [hfirst, Command.isReported]
      · have hfile := (FileTree.firstFile_eq_some_iff.1 hfirst).2
        rw [← FileTree.isFile_of_root (hroot hreaches) host.cwd] at hfile
        simp [hfirst, breaksOff_ofFile hfile, hbreaks]

/-- The layer that the environment names breaks off for an unknown user in the name, or at the
file. -/
theorem breaksOff_namedLayer :
    BreaksOff (namedLayer host) ↔
      ∃ name, host.namedFile = some name ∧ (host.homes.Lack (Path.ofString name) ∨
        name ≠ "" ∧ ∃ p, (Path.ofString name).expandHome host.homes = .ok p ∧
          host.BreaksAt p) := by
  rw [namedLayer]
  cases host.namedFile with
  | none => simp
  | some name =>
    simp only [Option.some.injEq, exists_eq_left']
    split_ifs with hname
    · simp [hname, Homes.not_lack_empty]
    · rw [← Path.expandHome_eq_unknownUser_iff]
      cases hpath : (Path.ofString name).expandHome host.homes with
      | error e => cases e <;> simp [Command.isReported]
      | ok p => simp [hname, breaksOff_ofFileIfAny]

end Settings

/-- The surroundings in which loading the settings meets a fault that the command does not
report. -/
inductive Host.SettingsBreak (host : Host) : Prop
  /-- The working directory has been removed. -/
  | removed (hcwd : host.tree.get? host.cwd ≠ some .directory)
  /-- At the file of the user. -/
  | user (hbreaks : host.BreaksAt (userFile host.homes))
  /-- The working directory has no location, for a link that leads back to itself. -/
  | resolve (user : Option Settings) (huser : Settings.userLayer host = .ok user) (path : String)
      (hresolve : host.tree.resolve host.cwd ⟨.root, host.cwd⟩ = .error (.linkLoop path))
  /-- At one of the files that may be that of the project. -/
  | project (user : Option Settings) (huser : Settings.userLayer host = .ok user) (l : Location)
      (hresolve : host.tree.resolve host.cwd ⟨.root, host.cwd⟩ = .ok l) (p : Path)
      (hreaches : host.tree.Reaches (projectFiles l.reverse) p) (hbreaks : host.BreaksAt p)
  /-- In the name of the file that the environment names. -/
  | name (user project : Option Settings) (huser : Settings.userLayer host = .ok user)
      (hproject : Settings.projectLayer host ⟨.root, host.cwd⟩ = .ok project) (name : String)
      (hname : host.namedFile = some name) (hlack : host.homes.Lack (Path.ofString name))
  /-- At the file that the environment names. -/
  | named (user project : Option Settings) (huser : Settings.userLayer host = .ok user)
      (hproject : Settings.projectLayer host ⟨.root, host.cwd⟩ = .ok project) (name : String)
      (hname : host.namedFile = some name) (hne : name ≠ "") (p : Path)
      (hpath : (Path.ofString name).expandHome host.homes = .ok p) (hbreaks : host.BreaksAt p)

/-- Loading breaks off layer by layer: each layer is met only if those before it are loaded. -/
theorem Settings.breaksOff_load :
    BreaksOff (load host d) ↔
      BreaksOff (userLayer host) ∨ ∃ user, userLayer host = .ok user ∧
        (BreaksOff (projectLayer host d) ∨ ∃ project, projectLayer host d = .ok project ∧
          BreaksOff (namedLayer host)) := by
  simp [load, breaksOff_bind]

/-- Loading the settings breaks off in the listed surroundings and in no others. -/
theorem Settings.breaksOff_loadHere : BreaksOff (loadHere host) ↔ host.SettingsBreak := by
  have hdirectory : BreaksOff (loadHere host) ↔ host.tree.get? host.cwd ≠ some .directory ∨
      BreaksOff (load host ⟨.root, host.cwd⟩) := by
    rw [loadHere, Host.directory, breaksOff_bind]
    split_ifs with hcwd <;> simp [hcwd, Command.isReported]
  rw [hdirectory, breaksOff_load, userLayer, breaksOff_ofFileIfAny, ← userLayer,
    breaksOff_projectLayer, breaksOff_namedLayer]
  constructor
  · rintro (hcwd | huser | ⟨user, huser, (⟨path, hresolve⟩ | ⟨l, p, hresolve, hreaches, hbreaks⟩) |
      ⟨project, hproject, name, hname, hlack | ⟨hne, p, hpath, hbreaks⟩⟩⟩)
    · exact .removed hcwd
    · exact .user huser
    · exact .resolve user huser path hresolve
    · exact .project user huser l hresolve p hreaches hbreaks
    · exact .name user project huser hproject name hname hlack
    · exact .named user project huser hproject name hname hne p hpath hbreaks
  · intro h
    cases h with
    | removed hcwd => exact .inl hcwd
    | user hbreaks => exact .inr (.inl hbreaks)
    | resolve user huser path hresolve =>
      exact .inr (.inr ⟨user, huser, .inl (.inl ⟨path, hresolve⟩)⟩)
    | project user huser l hresolve p hreaches hbreaks =>
      exact .inr (.inr ⟨user, huser, .inl (.inr ⟨l, p, hresolve, hreaches, hbreaks⟩)⟩)
    | name user project huser hproject name hname hlack =>
      exact .inr (.inr ⟨user, huser, .inr ⟨project, hproject, name, hname, .inl hlack⟩⟩)
    | named user project huser hproject name hname hne p hpath hbreaks =>
      exact .inr (.inr
        ⟨user, huser, .inr ⟨project, hproject, name, hname, .inr ⟨hne, p, hpath, hbreaks⟩⟩⟩)

end

end ShellWord
