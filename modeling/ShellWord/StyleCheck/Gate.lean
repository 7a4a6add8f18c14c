import ShellWord.FileTree.Lookup
import ShellWord.StyleCheck.Finding

/-!
# The style gate

A run of the gate checks every Python file below a directory. It passes if there is such a file
and none holds a banned construction; the files are looked at in the order of their paths,
compared name by name, and the first file that cannot be parsed is all that is reported.
-/

namespace ShellWord

/-- The path of what lies below the directory at a path, by the names on the way there. -/
def Path.below (p : Path) (names : List String) : Path := { p with names := p.names ++ names }

/-- Whether the system refuses a path for its length. -/
def Path.isTooLong (p : Path) : Bool := FileTree.maxPath < FileTree.byteLength p.toString

/-- The names on the way from a directory to each entry below it. -/
def FileTree.namesBelow (t : FileTree) (directory : Location) : List (List String) :=
  t.entries.filterMap fun (l, _) =>
    if directory.isPrefixOf l ∧ directory ≠ l then some (l.drop directory.length) else none

namespace StyleCheck

/-- Whether the last of several names is that of a Python file. -/
def isPythonName (names : List String) : Bool :=
  names.getLast?.any fun name => ".py".toList.isSuffixOf name.toList

/-- Whether a list of names comes before another, or is the same. Names are compared by their
characters. -/
def isNotAfter (a b : List String) : Bool := !List.lex b a fun x y => x < y

/-- The Python files below a directory, in order. A path that leads to no directory has none. To
list them, each directory below is read by its path. -/
def pythonFiles (t : FileTree) (cwd : Location) (directory : Path) :
    Except FileError (List Path) :=
  match t.find cwd directory with
  | .ok (l, .directory) =>
    let below := t.namesBelow l
    let unread := below.find? fun names =>
      t.get? (l ++ names) = some .directory ∧ (directory.below names).isTooLong
    match unread with
    | some names => .error ⟨.nameTooLong, (directory.below names).toString⟩
    | none => .ok (((below.filter isPythonName).mergeSort isNotAfter).map directory.below)
  | .ok _ => .ok []
  | .error fault =>
    if FileTree.meansAbsent fault then .ok [] else .error ⟨fault, directory.toString⟩

/-- What keeps a file from being checked. -/
inductive Fault
  | file (e : FileError)
  /-- The file is not encoded in UTF-8. -/
  | encoding (e : Utf8.Malformed)
  | source (path : Path) (e : SourceFault)
  deriving DecidableEq, Repr

def checkFile (t : FileTree) (cwd : Location) (p : Path) : Except Fault (List Finding) := do
  let content ← (t.read cwd p).mapError .file
  let source ← (Utf8.decode? content).mapError .encoding
  (checkSource (unifyNewlines source)).mapError (.source p)

def findingLine (p : Path) (f : Finding) : String :=
  s!"  {p.toString}:{f.line}: {f.description}\n"

/-- The lines that report the findings in several files. -/
def checkFiles (t : FileTree) (cwd : Location) (files : List Path) :
    Except Fault (List String) := do
  let lines ← files.mapM fun p => do return (← checkFile t cwd p).map (findingLine p)
  return lines.flatten

/-- How a run ends: with a status, or broken off by a fault that it does not report itself. -/
inductive Ending
  | status (code : Nat)
  | broken (f : Fault)
  deriving DecidableEq, Repr

/-- What a run leaves behind. -/
structure Report where
  ending : Ending
  output : String := ""
  deriving DecidableEq, Repr

/-- The directory to look below: the first argument, if there is one. -/
def startDirectory (arguments : List String) : Path :=
  Path.ofString (arguments.head?.getD "src")

def reportOn (t : FileTree) (cwd : Location) (files : List Path) : Report :=
  match checkFiles t cwd files with
  | .ok [] => { ending := .status 0 }
  | .ok lines => { ending := .status 1, output := String.join lines }
  | .error (.source p .syntaxError) =>
    { ending := .status 1, output := s!"Syntax error in {p.toString}\n" }
  | .error f => { ending := .broken f }

def run (t : FileTree) (cwd : Location) (arguments : List String) : Report :=
  let directory := startDirectory arguments
  match pythonFiles t cwd directory with
  | .error e => { ending := .broken (.file e) }
  | .ok [] =>
    { ending := .status 1, output := s!"No Python files found in: {directory.toString}\n" }
  | .ok files => reportOn t cwd files

end StyleCheck

end ShellWord
