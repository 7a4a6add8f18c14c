import ShellWord.FileTree.Lookup

/-!
# Physical paths

`resolve` turns a path into the location that it means, going through links and back up. In
contrast to a lookup it does not ask that anything exists: names below a place that does not exist
are taken as they are. A link that leads back to itself has no location; then the rest of the
path is taken as it stands.
-/

namespace ShellWord.FileTree

/-- The links met so far, with the location each one means; a link without a location is still
being followed. -/
abbrev Met := List (Location × Option Location)

/-- How far names could be followed: the links met, the location reached, and whether all was
followed. -/
structure Trail where
  met : Met
  here : Location
  complete : Bool
  deriving DecidableEq, Repr

/-- Follows names from a location. A link is passed to `onLink`, which follows its target. -/
def trailNames (t : FileTree) (onLink : Met → Location → List String → Trail) :
    Met → Location → List String → Trail
  | met, here, [] => ⟨met, here, true⟩
  | met, here, name :: rest =>
    if name = "." then trailNames t onLink met here rest
    else if name = ".." then trailNames t onLink met here.dropLast rest
    else
      let next := here ++ [name]
      match t.locate [] false ⟨.root, next⟩ with
      | .ok (.present l (.link target)) =>
        match met.lookup l with
        | some (some known) => trailNames t onLink met known rest
        -- the link is met inside itself
        | some none => ⟨met, next ++ rest, false⟩
        | none =>
          let inner := onLink ((l, none) :: met) (targetStart here target) (targetNames target)
          if inner.complete then
            trailNames t onLink ((l, some inner.here) :: inner.met) inner.here rest
          else ⟨inner.met, inner.here ++ rest, false⟩
      | _ => trailNames t onLink met next rest

/-- Follows names through links that lie in each other, down to a depth. No link is followed
inside itself, so as many levels as there are entries suffice. -/
def trail (t : FileTree) : Nat → Met → Location → List String → Trail
  | 0 => trailNames t fun met here names => ⟨met, here ++ names, false⟩
  | n + 1 => trailNames t (trail t n)

/-- Takes away `.` and each `..` together with the name before it. -/
def plainNames (names : List String) : Location :=
  names.foldl (fun done name =>
    if name = "." then done else if name = ".." then done.dropLast else done ++ [name]) []

/-- Why a path means no location. -/
inductive ResolveError
  | nul
  /-- A symbolic link leads back to itself. -/
  | linkLoop (path : String)
  deriving DecidableEq, Repr

/-- The report of a path that means no location. -/
def ResolveError.message : ResolveError → String
  | nul => FileFault.nul.describe
  | linkLoop path => s!"Symlink loop from {Literal.ofText path}"

/-- The location that a path means, seen from a working directory. -/
def resolve (t : FileTree) (cwd : Location) (p : Path) : Except ResolveError Location :=
  if p.names.any fun name => name.toList.contains '\x00' then .error .nul
  else
    let result := t.trail (t.entries.length + 1) [] (startOf cwd p) p.names
    let l := plainNames result.here
    match t.find [] ⟨.root, l⟩ with
    | .error .tooManyLinks => .error (.linkLoop (Location.toString l))
    | _ => .ok l

end ShellWord.FileTree
