import ShellWord.FileTree.Lookup

/-!
# Changing a file tree

Directories are made one by one, from the outermost that is missing to the innermost. Opening a
file for appending makes it if it is missing; a broken link is opened at its target.
-/

namespace ShellWord.FileTree

/-- Makes one directory. Nothing may be there, not even a broken link. -/
def makeDirectory (t : FileTree) (cwd : Location) (p : Path) : Except FileFault FileTree := do
  match ← t.locate cwd false p with
  | .present _ _ => .error .alreadyExists
  | .absent directory name => .ok (t.put (directory ++ [name]) .directory)

/-- The outcome of making a directory that may be there already: a fault other than a missing
parent does not matter if there is a directory in the end. -/
def settle (t : FileTree) (cwd : Location) (p : Path) (fault : FileFault) :
    FileTree × Except FileError Unit :=
  if fault = .nul then (t, .error ⟨fault, p.toString⟩)
  else
    match t.isDirectory cwd p with
    | .ok true => (t, .ok ())
    | .ok false => (t, .error ⟨fault, p.toString⟩)
    | .error e => (t, .error e)

/-- Makes a directory and those above it, as far as they are missing. When that fails, the
directories that were made stay. -/
def makeDirectories (t : FileTree) (cwd : Location) (p : Path) : FileTree × Except FileError Unit :=
  match t.makeDirectory cwd p with
  | .ok t => (t, .ok ())
  | .error .notFound =>
    -- the directory above is missing, so it is made first
    if _h : p.names = [] then (t, .error ⟨.notFound, p.toString⟩)
    else
      match makeDirectories t cwd p.parent with
      | (t, .error e) => (t, .error e)
      | (t, .ok ()) =>
        match t.makeDirectory cwd p with
        | .ok t => (t, .ok ())
        | .error .notFound => (t, .error ⟨.notFound, p.toString⟩)
        | .error fault => t.settle cwd p fault
  | .error fault => t.settle cwd p fault
termination_by p.names.length
decreasing_by
  have := List.length_pos_iff.2 _h
  simp only [Path.parent, List.length_dropLast]
  omega

/-- Opens a file for appending: the tree in which it exists, and its location. -/
def openAppend (t : FileTree) (cwd : Location) (p : Path) :
    Except FileError (FileTree × Location) :=
  match t.locate cwd true p with
  | .error fault => .error ⟨fault, p.toString⟩
  | .ok (.present l (.file _)) => .ok (t, l)
  | .ok (.present _ .directory) => .error ⟨.isADirectory, p.toString⟩
  | .ok (.present _ (.link _)) => .error ⟨.tooManyLinks, p.toString⟩
  | .ok (.absent directory name) =>
    .ok (t.put (directory ++ [name]) (.file []), directory ++ [name])

/-- Writes a whole file, with the directories above it. -/
def write (t : FileTree) (cwd : Location) (p : Path) (content : Bytes) : FileTree :=
  let t := (t.makeDirectories cwd p.parent).1
  match t.openAppend cwd p with
  | .ok (t, l) => t.put l (.file content)
  | .error _ => t

/-- Puts a symbolic link somewhere, with the directories above it. -/
def link (t : FileTree) (cwd : Location) (p : Path) (target : String) : FileTree :=
  let t := (t.makeDirectories cwd p.parent).1
  match t.locate cwd false p with
  | .ok (.absent directory name) => t.put (directory ++ [name]) (.link target)
  | _ => t

/-- Takes away what a path leads to, without following a link at its end. -/
def delete (t : FileTree) (cwd : Location) (p : Path) : FileTree :=
  match t.locate cwd false p with
  | .ok (.present l _) => t.remove l
  | _ => t

end ShellWord.FileTree
