/-!
# Paths

A path is a list of names below a starting point: the working directory, or the root. Writing a
path down and reading it back drops what carries no meaning: repeated slashes, `.` and a slash at
the end. `..` stays, because what it leads to depends on symbolic links. Exactly two slashes at
the beginning are kept apart from one, as the standard for paths allows.
-/

namespace ShellWord

/-- The pieces of a list between occurrences of a separator; one more than there are
separators. -/
def splitAt {α : Type} [DecidableEq α] (separator : α) : List α → List (List α)
  | [] => [[]]
  | c :: rest =>
    if c = separator then [] :: splitAt separator rest
    else
      match splitAt separator rest with
      | [] => [[c]]
      | piece :: more => (c :: piece) :: more

/-- Where a path starts. -/
inductive PathStart
  /-- At the working directory. -/
  | here
  /-- At the root. -/
  | root
  /-- At the root, written with two slashes. -/
  | doubleRoot
  deriving DecidableEq, Repr

/-- How many slashes a start is written with. -/
def PathStart.slashes : PathStart → Nat
  | here => 0
  | root => 1
  | doubleRoot => 2

/-- The start that a number of leading slashes means. -/
def PathStart.ofSlashes : Nat → PathStart
  | 0 => here
  | 2 => doubleRoot
  | _ => root

/-- The start and the names of a path that is written over any alphabet with a slash and a
dot. -/
def pathParts {α : Type} [DecidableEq α] (slash dot : α) (s : List α) :
    PathStart × List (List α) :=
  (.ofSlashes (s.takeWhile (· = slash)).length,
    (splitAt slash s).filter fun name => name ≠ [] ∧ name ≠ [dot])

/-- A path in its plainest spelling, over any alphabet with a slash and a dot. -/
def plainPath {α : Type} [DecidableEq α] (slash dot : α) (s : List α) : List α :=
  let (start, names) := pathParts slash dot s
  let text := List.replicate start.slashes slash ++ List.intercalate [slash] names
  if text = [] then [dot] else text

/-- A path to a file or directory. -/
structure Path where
  start : PathStart
  names : List String
  deriving DecidableEq, Repr

namespace Path

def ofString (s : String) : Path :=
  let (start, names) := pathParts '/' '.' s.toList
  ⟨start, names.map String.ofList⟩

/-- Writes a path; the path that names nothing is `.`. -/
def toString (p : Path) : String :=
  let text := "".pushn '/' p.start.slashes ++ "/".intercalate p.names
  if text = "" then "." else text

def isAbsolute (p : Path) : Bool := p.start ≠ .here

/-- The path without its last name; a path without names is its own parent. -/
def parent (p : Path) : Path := { p with names := p.names.dropLast }

/-- The path of an entry of the directory at `p`. -/
def child (p : Path) (name : String) : Path := { p with names := p.names ++ [name] }

/-- The path `q` seen from the directory at `p`. -/
def append (p q : Path) : Path := if q.isAbsolute then q else { p with names := p.names ++ q.names }

end Path

end ShellWord
