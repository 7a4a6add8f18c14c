import ShellWord.FileTree.Update
import ShellWord.Journal.Line
import ShellWord.Settings.Basic

/-!
# The log

The log is off, or it is a file that lines are appended to. It is set up from settings; if that
fails it is off. Whether a log is full is decided when it is opened, and stays so until the next
one is opened.
-/

namespace ShellWord

/-- The state of the log. -/
structure Journal where
  /-- The file that is open, if the log is on. -/
  file : Option Location := none
  /-- Whether the log shows the words themselves. -/
  full : Bool := false
  deriving DecidableEq, Repr

namespace Journal

/-- The state of the log together with the file tree that it is kept in. -/
structure World where
  journal : Journal := {}
  tree : FileTree
  deriving DecidableEq, Repr

def World.off (w : World) : World := { w with journal := { w.journal with file := none } }

/-- Sets up the log: the directory is made, and the file is opened. -/
def World.configure (w : World) (cwd : Location) (settings : Settings) :
    World × Except FileError Unit :=
  match settings.log with
  | none => (w.off, .ok ())
  | some p =>
    match w.tree.makeDirectories cwd p.parent with
    | (tree, .error e) => ({ w.off with tree }, .error e)
    | (tree, .ok ()) =>
      match tree.openAppend cwd p with
      | .error e => ({ w.off with tree }, .error e)
      | .ok (tree, l) => (⟨⟨some l, settings.effectiveLogFull⟩, tree⟩, .ok ())

/-- Logs one call, if the log is on. -/
def World.record (w : World) (stamp : String) (c : Call) : World :=
  match w.journal.file with
  | none => w
  | some l => { w with tree := w.tree.append l (c.line w.journal.full stamp) }

end Journal

end ShellWord
