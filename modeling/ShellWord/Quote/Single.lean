import ShellWord.Byte.Class

/-!
# The single-quoted form

Single quotes keep every byte but the single quote, so a word is written as groups: a verbatim
group `'...'`, a lone `\'` for each single quote, and `"$(printf '\ooo...')"` for a run of bytes
at or above `0x80`, which keeps the output ASCII. `render` writes a word in one pass with
bounded look-back; `renderRuns` states the same form as a rule on the maximal runs of the word.
-/

namespace ShellWord.SingleQuoted

def octalDigit (n : UInt8) : UInt8 := 0x30 + n

/-- A byte as a backslash and exactly three octal digits. -/
def octal (b : UInt8) : Bytes :=
  [0x5C, octalDigit (b >>> 6), octalDigit ((b >>> 3) &&& 0x07), octalDigit (b &&& 0x07)]

/-- What opens a group of octal escapes: `"$(printf '`. -/
def printfOpening : Bytes :=
  [0x22, 0x24, 0x28, 0x70, 0x72, 0x69, 0x6E, 0x74, 0x66, 0x20, 0x27]

/-- What closes a group of octal escapes: `')"`. -/
def printfClosing : Bytes := [0x27, 0x29, 0x22]

/-- A run of bytes as the output of the `printf` command. -/
def printfGroup (run : Bytes) : Bytes := printfOpening ++ run.flatMap octal ++ printfClosing

/-- A single quote outside any group: `\'`. -/
def escapedQuote : Bytes := [0x5C, 0x27]

/-! ## One pass -/

/-- What the pass remembers between two bytes. -/
structure State where
  /-- A verbatim group is open. -/
  inGroup : Bool
  /-- High bytes that were read and not yet written. -/
  pending : Bytes
  deriving DecidableEq, Repr

/-- Nothing is open and nothing is pending. -/
def State.start : State := ⟨false, []⟩

/-- The octal group for the pending bytes, or nothing if there are none. -/
def State.flushed (s : State) : Bytes := if s.pending.isEmpty then [] else printfGroup s.pending

/-- The quote that closes an open verbatim group, or nothing. -/
def State.closed (s : State) : Bytes := if s.inGroup then [0x27] else []

/-- Reads one byte: the state after it, and what is written for it. -/
def State.step (s : State) (b : UInt8) : State × Bytes :=
  match ByteClass.of b with
  | .high => (⟨false, s.pending ++ [b]⟩, s.closed)
  | .quote => (⟨false, []⟩, s.flushed ++ s.closed ++ escapedQuote)
  | .bare | .literal | .control | .nul =>
    (⟨true, []⟩, s.flushed ++ (if s.inGroup then [b] else [0x27, b]))

/-- What is written when the word ends. -/
def State.finish (s : State) : Bytes := s.flushed ++ s.closed

/-- The output of the pass from a state on. -/
def renderFrom (s : State) : Bytes → Bytes
  | [] => s.finish
  | b :: rest => (s.step b).2 ++ renderFrom (s.step b).1 rest

/-- The whole word in the single-quoted form; nothing at all for the empty word. -/
def render (word : Bytes) : Bytes := renderFrom .start word

/-! ## One byte, action by action -/

/-- The single things that the pass does. -/
inductive Action
  | closeGroup
  /-- Keeps a high byte for later. -/
  | keep (b : UInt8)
  /-- Writes the pending bytes, which then are no longer pending. -/
  | flush
  /-- Writes a single quote outside any group. -/
  | coverQuote
  | openGroup
  | put (b : UInt8)
  deriving DecidableEq, Repr

/-- The state after an action, and what the action writes. -/
def Action.on (s : State) : Action → State × Bytes
  | closeGroup => (⟨false, s.pending⟩, [0x27])
  | keep b => (⟨s.inGroup, s.pending ++ [b]⟩, [])
  | flush => (⟨s.inGroup, []⟩, printfGroup s.pending)
  | coverQuote => (s, escapedQuote)
  | openGroup => (⟨true, s.pending⟩, [0x27])
  | put b => (s, [b])

def State.flushing (s : State) : List Action := if s.pending.isEmpty then [] else [.flush]

def State.closing (s : State) : List Action := if s.inGroup then [.closeGroup] else []

def State.opening (s : State) : List Action := if s.inGroup then [] else [.openGroup]

/-- What the pass does for a byte, in order. -/
def State.actions (s : State) (b : UInt8) : List Action :=
  match ByteClass.of b with
  | .high => s.closing ++ [.keep b]
  | .quote => s.flushing ++ (s.closing ++ [.coverQuote])
  | .bare | .literal | .control | .nul => s.flushing ++ (s.opening ++ [.put b])

/-- Takes actions one after another: the state in the end, and what they write together. -/
def State.perform (s : State) : List Action → State × Bytes
  | [] => (s, [])
  | a :: rest =>
    let (last, more) := (a.on s).1.perform rest
    (last, (a.on s).2 ++ more)

/-- The states before, between and after actions. -/
def State.through (s : State) : List Action → List State
  | [] => [s]
  | a :: rest => s :: (a.on s).1.through rest

/-- All states that the pass goes through, those between two actions for one byte included. -/
def statesFrom (s : State) : Bytes → List State
  | [] => [s]
  | b :: rest => s.through (s.actions b) ++ statesFrom (s.step b).1 rest

/-! ## The rule on runs -/

/-- The three kinds of bytes that this form tells apart. -/
inductive Kind
  | high
  | quote
  | verbatim
  deriving DecidableEq, Repr

def Kind.of (b : UInt8) : Kind :=
  match ByteClass.of b with
  | .high => .high
  | .quote => .quote
  | .bare | .literal | .control | .nul => .verbatim

/-- How a run of bytes of one kind is written. -/
def renderRun : Kind → Bytes → Bytes
  | .high, run => printfGroup run
  | .quote, run => run.flatMap fun _ => escapedQuote
  | .verbatim, run => [0x27] ++ run ++ [0x27]

/-- The maximal runs of bytes of one kind, in order. -/
def runs : Bytes → List (Kind × Bytes)
  | [] => []
  | b :: rest =>
    match runs rest with
    | [] => [(Kind.of b, [b])]
    | (k, run) :: more =>
      if k = Kind.of b then (k, b :: run) :: more else (Kind.of b, [b]) :: (k, run) :: more

/-- The single-quoted form as a rule: the renderings of the maximal runs, side by side. -/
def renderRuns (word : Bytes) : Bytes := (runs word).flatMap fun r => renderRun r.1 r.2

end ShellWord.SingleQuoted
