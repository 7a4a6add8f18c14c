import ShellWord.ShellLine.Word

/-!
# The words of a single command

`commandWords` reads a text that should be one simple command and returns its words with their
places. Reading goes on after the end of each command, and stops at an empty line.
-/

namespace ShellWord.ShellLine

/-- A word of a command: its text, and the places where it starts and stops. -/
structure CommandWord where
  text : String
  start : Nat
  stop : Nat
  deriving DecidableEq, Repr

/-- Why a text has no command words. -/
inductive LineError
  /-- The text is no sequence of commands. -/
  | notParsed
  | expand (e : ExpandError)
  /-- The text holds something other than one simple command. -/
  | notSimple (kinds : List Kind)
  deriving DecidableEq, Repr

def LineError.message : LineError → String
  | notParsed => ""
  | expand e => e.message
  | notSimple kinds =>
    let names := ", ".intercalate (kinds.map Kind.name)
    s!"expected one simple command, got: {names}"

/-- The text of a word, unless it cannot be expanded. -/
def expandWord (w : RawWord) : Except LineError CommandWord :=
  match wordText w.text with
  | .ok text => .ok ⟨String.ofList text, w.start, w.stop⟩
  | .error .notACommand => .error .notParsed
  | .error e => .error (.expand e)

/-- The commands of a text from a place on. Every word has to be one that can be expanded. -/
def nodesFrom : Nat → Nat → List Char → Except LineError (List Node)
  | 0, _, _ => .ok []
  | n + 1, place, s =>
    if s.isEmpty then .ok []
    else
      match readUnit (tokens place s) with
      | none => .error .notParsed
      | some none => .ok []
      | some (some node) => do
        let _ ← node.expanded.mapM expandWord
        return node :: (← nodesFrom n (node.stop + 1) (s.drop (node.stop + 1 - place)))

/-- The words of the one simple command that a text consists of. -/
def commandWords (line : String) : Except LineError (List CommandWord) := do
  let s := line.toList
  let nodes ← nodesFrom (s.length + 1) 0 s
  match nodes with
  | [node] =>
    if node.kind = .command then node.words.mapM expandWord
    else .error (.notSimple [node.kind])
  | nodes => .error (.notSimple (nodes.map Node.kind))

end ShellWord.ShellLine
