import ShellWord.FileTree.Lookup

/-!
# Changes between two file trees

What can be seen below a directory are directories and files. A symbolic link is seen as what it
leads to, and not at all if it leads nowhere.
-/

namespace ShellWord.FileTree

/-- What is seen at a path. -/
inductive Sight
  | directory
  | file (content : Bytes)
  deriving DecidableEq, Repr

def sight? (t : FileTree) (l : Location) : Option Sight :=
  match t.find [] ⟨.root, l⟩ with
  | .ok (_, .directory) => some .directory
  | .ok (_, .file content) => some (.file content)
  | _ => none

/-- All that is seen below a directory: the names on the way from there, and the sight. -/
def below (t : FileTree) (directory : Location) : List (List String × Sight) :=
  t.entries.filterMap fun (l, _) =>
    if directory.isPrefixOf l ∧ directory ≠ l then
      (t.sight? l).map fun s => (l.drop directory.length, s)
    else none

/-- The text of the names on the way from a directory. -/
def relativeText (names : List String) : String := "/".intercalate names

/-- What is seen below a directory in the new tree and was not seen in the old one, in the order
of the paths as texts. -/
def changes (old new : FileTree) (directory : Location) : List (List String × Sight) :=
  let before := old.below directory
  let fresh := (new.below directory).filter fun p => before.lookup p.1 ≠ some p.2
  fresh.mergeSort fun a b => relativeText a.1 ≤ relativeText b.1

end ShellWord.FileTree
