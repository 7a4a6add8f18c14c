import ShellWord.FileTree.Resolve
import ShellWord.Settings.Table
import ShellWord.Text.Newline

/-!
# Finding the layers

There are up to three layers: the file of the user, the file of the project, and the file that the
environment names. The file of the project is the nearest one on the way from the working
directory up to the root, where the way is that of physical directories.
-/

namespace ShellWord

/-- All that a run can see of its surroundings. -/
structure Host where
  tree : FileTree
  /-- The working directory. -/
  cwd : Location
  homes : Homes
  /-- The value of the variable that names a settings file. -/
  namedFile : Option String := none
  deriving DecidableEq, Repr

/-- What is wrong with a layer. -/
inductive LayerError
  | undecodable (e : Utf8.Malformed)
  | settings (e : SettingsError)
  deriving Repr

def LayerError.message : LayerError → String
  | undecodable e => e.message
  | settings e => e.message

/-- Why settings cannot be loaded. -/
inductive LoadError
  /-- A layer is faulty; it is named by its path. -/
  | layer (path : String) (e : LayerError)
  /-- A path starts at a home directory that cannot be found. -/
  | home (e : HomeError)
  /-- The working directory has no location. -/
  | resolve (e : FileTree.ResolveError)
  /-- A path cannot be looked up. -/
  | file (e : FileError)
  deriving Repr

def LoadError.message : LoadError → String
  | layer path e => s!"{path}: {e.message}"
  | home e => e.message
  | resolve e => e.message
  | file e => e.message

/-- The path of the working directory, unless it has been removed. -/
def Host.directory (host : Host) : Except LoadError Path :=
  if host.tree.get? host.cwd = some .directory then .ok ⟨.root, host.cwd⟩
  else .error (.file ⟨.notFound, ""⟩)

/-- The name of a project's settings file. -/
def projectFileName : String := ".shellquote.toml"

def userFile (homes : Homes) : Path :=
  ((homePath homes.own).child ".shellquote").child "config.toml"

namespace Settings

/-- The settings of one file. A home directory that does not exist is not the fault of the
file. -/
def ofFile (host : Host) (p : Path) : Except LoadError Settings :=
  match host.tree.read host.cwd p with
  | .error e => .error (.file e)
  | .ok data =>
    match Utf8.decode? data with
    | .error e => .error (.layer p.toString (.undecodable e))
    | .ok chars =>
      match ofText host.homes (String.ofList (unifyNewlines chars)) with
      | .ok s => .ok { s with source := some p.toString }
      -- not reported as an error of the file
      | .error (.home .unknownUser) => .error (.home .unknownUser)
      | .error e => .error (.layer p.toString (.settings e))

/-- The settings of a file if there is one, and otherwise none. -/
def ofFileIfAny (host : Host) (p : Path) : Except LoadError (Option Settings) := do
  match host.tree.isFile host.cwd p with
  | .error e => .error (.file e)
  | .ok false => return none
  | .ok true => return some (← ofFile host p)

end Settings

/-- The project's settings file in the nearest directory among one and those above it. The names
of the directory are given from the innermost to the outermost. -/
def nearestProjectFile (t : FileTree) : List String → Except FileError (Option Path)
  | [] => candidate []
  | name :: above =>
    match candidate (name :: above) with
    | .ok none => nearestProjectFile t above
    | result => result
where
  /-- The file in one directory. -/
  candidate (names : List String) : Except FileError (Option Path) := do
    let p : Path := ⟨.root, names.reverse ++ [projectFileName]⟩
    return if ← t.isFile [] p then some p else none

/-- The project's settings file, searched from a directory. -/
def findProjectFile (host : Host) (directory : Path) : Except LoadError (Option Path) :=
  match host.tree.resolve host.cwd directory with
  | .error e => .error (.resolve e)
  | .ok l =>
    match nearestProjectFile host.tree l.reverse with
    | .error e => .error (.file e)
    | .ok p => .ok p

namespace Settings

def userLayer (host : Host) : Except LoadError (Option Settings) :=
  ofFileIfAny host (userFile host.homes)

/-- The layer of the project that a directory belongs to. -/
def projectLayer (host : Host) (directory : Path) : Except LoadError (Option Settings) := do
  match ← findProjectFile host directory with
  | some p => return some (← ofFile host p)
  | none => return none

/-- The layer that the environment names. An empty name is none. -/
def namedLayer (host : Host) : Except LoadError (Option Settings) :=
  match host.namedFile with
  | none => .ok none
  | some name =>
    if name = "" then .ok none
    else
      match (Path.ofString name).expandHome host.homes with
      | .error e => .error (.home e)
      | .ok p => ofFileIfAny host p

/-- The settings that apply in a directory: all layers, the later over the earlier. -/
def load (host : Host) (directory : Path) : Except LoadError Settings := do
  let user ← userLayer host
  let project ← projectLayer host directory
  let named ← namedLayer host
  return ([user, project, named].filterMap id).foldl merge {}

/-- The settings that apply in the working directory. -/
def loadHere (host : Host) : Except LoadError Settings := do
  load host (← host.directory)

end Settings

end ShellWord
