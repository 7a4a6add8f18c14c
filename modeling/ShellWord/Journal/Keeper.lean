import ShellWord.Journal.Basic

/-!
# Keeping the log

How the log is kept, step by step. The log is a file that is open, a logger that writes to an open
file, and the question whether words are shown. They are set one after another, and a procedure that
fails on the way leaves behind what was set by then.
-/

namespace ShellWord.Journal

/-- All that is kept for the log, and the files. -/
structure Keeper where
  tree : FileTree
  /-- The files that were opened so far, each with its location as long as it is open. The place of
  a file in the list is its handle. -/
  opened : List (Option Location) := []
  /-- The open file that is closed before another is opened. -/
  held : Option Nat := none
  /-- The open file that a logger writes to. -/
  target : Option Nat := none
  /-- Whether there is a logger. -/
  logs : Bool := false
  /-- Whether the log shows the words themselves. -/
  full : Bool := false
  deriving DecidableEq, Repr

/-- What goes wrong with a log. -/
inductive KeeperFault
  | file (e : FileError)
  /-- The file that was written to had been closed. -/
  | closed
  deriving DecidableEq, Repr

/-- A procedure on what is kept. When it fails, what it changed before stays. -/
abbrev Keeping := ExceptT KeeperFault (StateM Keeper)

namespace Keeping

/-- Runs a procedure: the outcome, and what is kept then. -/
def runOn {α : Type} (x : Keeping α) (k : Keeper) : Except KeeperFault α × Keeper :=
  StateT.run (ExceptT.run x) k

/-- Closes the file that is held. -/
def closeHeld : Keeping Unit := do
  match (← get).held with
  | none => return
  | some handle =>
    modify fun k => { k with opened := k.opened.set handle none }
    modify fun k => { k with held := none }

def makeDirectories (cwd : Location) (p : Path) : Keeping Unit := do
  let (tree, result) := (← get).tree.makeDirectories cwd p
  modify fun k => { k with tree }
  match result with
  | .ok () => return
  | .error e => throw (.file e)

/-- Opens a file for appending, and gives its handle. -/
def openAppend (cwd : Location) (p : Path) : Keeping Nat := do
  let k ← get
  match k.tree.openAppend cwd p with
  | .error e => throw (.file e)
  | .ok (tree, l) =>
    set { k with tree, opened := k.opened ++ [some l] }
    return k.opened.length

/-- Writes to the file that the logger writes to. -/
def write (data : Bytes) : Keeping Unit := do
  let k ← get
  match k.target.bind fun handle => k.opened[handle]?.join with
  | some l => set { k with tree := k.tree.append l data }
  | none => throw .closed

/-- Opens the file of the log. There is no logger until all else has gone well. -/
def openLog (cwd : Location) (p : Path) (full : Bool) : Keeping Unit := do
  makeDirectories cwd p.parent
  let handle ← openAppend cwd p
  modify fun k => { k with held := some handle }
  modify fun k => { k with target := some handle }
  modify fun k => { k with logs := true }
  modify fun k => { k with full }

/-- Sets up the log, once the log before it is off. -/
def configure (cwd : Location) (s : Settings) : Keeping Unit := do
  modify fun k => { k with logs := false }
  closeHeld
  match s.log with
  | none => return
  | some p => openLog cwd p s.effectiveLogFull

/-- Logs one call, if there is a logger. -/
def record (stamp : String) (c : Call) : Keeping Unit := do
  let k ← get
  if k.logs then write (c.line k.full stamp)

end Keeping

/-- A request to the keeper of the log. -/
inductive Request
  | configure (cwd : Location) (s : Settings)
  | record (stamp : String) (c : Call)
  deriving DecidableEq, Repr

/-- What is done for a request. -/
def Request.keeping : Request → Keeping Unit
  | configure cwd s => Keeping.configure cwd s
  | record stamp c => Keeping.record stamp c

namespace Keeper

/-- The outcome of a request, and what is kept after it. -/
def answer (k : Keeper) (r : Request) : Except KeeperFault Unit × Keeper := r.keeping.runOn k

/-- What is kept for a file tree before any request. -/
def start (tree : FileTree) : Keeper := { tree }

/-- What is kept after requests, some of which may have failed. -/
def after (k : Keeper) (requests : List Request) : Keeper :=
  requests.foldl (fun k r => (k.answer r).2) k

def openFiles (k : Keeper) : List Location := k.opened.filterMap id

/-- The file that calls are logged to, if the log is on. -/
def file? (k : Keeper) : Option Location :=
  if k.logs then k.target.bind fun handle => k.opened[handle]?.join else none

/-- What the rest of the program sees of the log. -/
def world (k : Keeper) : World := ⟨⟨k.file?, k.full⟩, k.tree⟩

end Keeper

end ShellWord.Journal
