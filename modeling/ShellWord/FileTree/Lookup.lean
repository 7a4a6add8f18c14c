import ShellWord.FileTree.Basic
import ShellWord.Text.Utf8

/-!
# Looking up paths

A path is followed name by name. A symbolic link is replaced by its target, `..` leads to the
parent of the place reached so far, and every place on the way has to be a directory. At most
forty links are followed, so the search always ends.
-/

namespace ShellWord

/-- Where a path leads. -/
inductive Place
  /-- To an entry. -/
  | present (location : Location) (entry : Entry)
  /-- To a name that a directory does not have. -/
  | absent (directory : Location) (name : String)
  deriving DecidableEq, Repr

namespace FileTree

/-- The number of bytes that a name or a path takes. -/
def byteLength (s : String) : Nat := (Utf8.encodeString s).length

/-- The longest name, in bytes. -/
def maxName : Nat := 255

/-- The longest path, in bytes. -/
def maxPath : Nat := 4095

/-- How many links one search follows. -/
def maxLinks : Nat := 40

/-- The names of a link target; a slash at its end asks for a directory. -/
def targetNames (target : String) : List String :=
  let names := (splitAt '/' target.toList).filter (· ≠ [])
  let names := if target.toList.getLast? = some '/' then names ++ [['.']] else names
  names.map String.ofList

/-- Where the search goes on after a link in a directory. -/
def targetStart (directory : Location) (target : String) : Location :=
  if target.toList.head? = some '/' then [] else directory

/-- Follows names from a directory. A link is passed to `onLink`, together with the names after
it; a link at the very end is the result itself unless it is to be followed. -/
def followNames (t : FileTree) (followLast : Bool)
    (onLink : Location → List String → Except FileFault Place) :
    Location → List String → Except FileFault Place
  | here, [] =>
    match t.get? here with
    | some e => .ok (.present here e)
    | none => .error .notFound
  | here, name :: rest =>
    if t.get? here ≠ some .directory then .error .notADirectory
    else if name = "." then followNames t followLast onLink here rest
    else if name = ".." then followNames t followLast onLink here.dropLast rest
    else if maxName < byteLength name then .error .nameTooLong
    else
      match t.get? (here ++ [name]) with
      -- the last name may be that of an entry to be made
      | none => if rest = [] then .ok (.absent here name) else .error .notFound
      | some (.link target) =>
        if rest = [] ∧ !followLast then .ok (.present (here ++ [name]) (.link target))
        else onLink (targetStart here target) (targetNames target ++ rest)
      | some _ => followNames t followLast onLink (here ++ [name]) rest

/-- Follows names and a limited number of links. -/
def follow (t : FileTree) (followLast : Bool) : Nat → Location → List String →
    Except FileFault Place
  | 0 => followNames t followLast fun _ _ => .error .tooManyLinks
  | n + 1 => followNames t followLast (follow t followLast n)

/-- Where a path starts. -/
def startOf (cwd : Location) (p : Path) : Location := if p.isAbsolute then [] else cwd

/-- Looks up a path, seen from a working directory. -/
def locate (t : FileTree) (cwd : Location) (followLast : Bool) (p : Path) :
    Except FileFault Place :=
  if p.names.any fun name => name.toList.contains '\x00' then .error .nul
  else if maxPath < byteLength p.toString then .error .nameTooLong
  else t.follow followLast maxLinks (startOf cwd p) p.names

/-- The location and the entry that a path leads to. -/
def find (t : FileTree) (cwd : Location) (p : Path) : Except FileFault (Location × Entry) := do
  match ← t.locate cwd true p with
  | .present l e => return (l, e)
  | .absent _ _ => .error .notFound

/-- Whether a fault only means that there is nothing of the kind that was asked for. -/
def meansAbsent : FileFault → Bool
  | .notFound => true
  | .notADirectory => true
  | .tooManyLinks => true
  | .nul => true
  | .alreadyExists => false
  | .isADirectory => false
  | .nameTooLong => false

/-- Asks a question about the entry that a path leads to; the answer is no if there is none. -/
def ask (t : FileTree) (cwd : Location) (p : Path) (question : Entry → Bool) :
    Except FileError Bool :=
  match t.find cwd p with
  | .ok (_, e) => .ok (question e)
  | .error fault => if meansAbsent fault then .ok false else .error ⟨fault, p.toString⟩

def isFile (t : FileTree) (cwd : Location) (p : Path) : Except FileError Bool :=
  t.ask cwd p fun
    | .file _ => true
    | _ => false

def isDirectory (t : FileTree) (cwd : Location) (p : Path) : Except FileError Bool :=
  t.ask cwd p fun
    | .directory => true
    | _ => false

/-- The content of the file that a path leads to. -/
def read (t : FileTree) (cwd : Location) (p : Path) : Except FileError Bytes :=
  match t.find cwd p with
  | .ok (_, .file content) => .ok content
  | .ok (_, .directory) => .error ⟨.isADirectory, p.toString⟩
  | .ok (_, .link _) => .error ⟨.tooManyLinks, p.toString⟩
  | .error fault => .error ⟨fault, p.toString⟩

end FileTree

end ShellWord
