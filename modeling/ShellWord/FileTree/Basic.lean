import ShellWord.Byte.Class
import ShellWord.Path.Basic
import ShellWord.Text.Literal

/-!
# File trees

A file tree assigns entries to locations: directories, files and symbolic links. A location is
the physical place of an entry, the names on the way to it from the root; a path, in contrast, may
go through links and back up. The root is always a directory.
-/

namespace ShellWord

/-- The names on the way from the root to an entry. -/
abbrev Location := List String

/-- What can stand at a location. -/
inductive Entry
  | directory
  | file (content : Bytes)
  | link (target : String)
  deriving DecidableEq, Repr

/-- Entries by location. -/
structure FileTree where
  entries : List (Location × Entry) := []
  deriving DecidableEq, Repr

/-- Why the operating system refuses a path. -/
inductive FileFault
  | notFound
  | alreadyExists
  | notADirectory
  | isADirectory
  | nameTooLong
  | tooManyLinks
  /-- No path holds a zero byte. -/
  | nul
  deriving DecidableEq, Repr

/-- A refused path and the reason. -/
structure FileError where
  fault : FileFault
  /-- The path as it was given; empty if the request was about no path. -/
  path : String
  deriving DecidableEq, Repr

/-- The number and the description of a fault. -/
def FileFault.describe : FileFault → String
  | notFound => "[Errno 2] No such file or directory"
  | alreadyExists => "[Errno 17] File exists"
  | notADirectory => "[Errno 20] Not a directory"
  | isADirectory => "[Errno 21] Is a directory"
  | nameTooLong => "[Errno 36] File name too long"
  | tooManyLinks => "[Errno 40] Too many levels of symbolic links"
  | nul => "embedded null byte"

def FileError.message (e : FileError) : String :=
  match e.fault with
  | .nul => e.fault.describe
  | fault =>
    if e.path = "" then fault.describe else s!"{fault.describe}: {Literal.ofText e.path}"

def Location.toString (l : Location) : String := "/" ++ "/".intercalate l

namespace FileTree

def get? (t : FileTree) (l : Location) : Option Entry :=
  if l = [] then some .directory else t.entries.lookup l

/-- Puts an entry at a location, in the place of an entry that was there. -/
def put (t : FileTree) (l : Location) (e : Entry) : FileTree :=
  if (t.entries.lookup l).isSome then
    ⟨t.entries.map fun (k, old) => if k = l then (k, e) else (k, old)⟩
  else ⟨t.entries ++ [(l, e)]⟩

def remove (t : FileTree) (l : Location) : FileTree := ⟨t.entries.filter fun p => p.1 ≠ l⟩

/-- Appends data to the file at a location. -/
def append (t : FileTree) (l : Location) (data : Bytes) : FileTree :=
  match t.get? l with
  | some (.file content) => t.put l (.file (content ++ data))
  | _ => t

end FileTree

end ShellWord
