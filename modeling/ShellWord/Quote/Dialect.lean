import ShellWord.Quote.Escape
import ShellWord.Quote.Single

/-!
# Dialects and the choice of a form

A dialect is the shell that will read the word. `Dialect.form` picks how a word is written,
`Form.render` writes it, and `Dialect.quote` refuses the words that hold a zero byte.
-/

namespace ShellWord

/-- The shells that quoted words are written for. -/
inductive Dialect
  | bash
  | sh
  deriving DecidableEq, Repr

/-- The ways to write a word. -/
inductive Form
  /-- `''`, the only way to write the empty word. -/
  | empty
  /-- The bytes themselves. -/
  | bare
  /-- `$'...'`. -/
  | escapeQuoted
  /-- `'...'`, with the detours for quotes and high bytes. -/
  | singleQuoted
  deriving DecidableEq, Repr

def Form.render : Form → Bytes → Bytes
  | .empty, _ => [0x27, 0x27]
  | .bare, word => word
  | .escapeQuoted, word => EscapeQuoted.render word
  | .singleQuoted, word => SingleQuoted.render word

namespace Dialect

/-- All dialects, in the order in which they are offered. -/
def all : List Dialect := [bash, sh]

def name : Dialect → String
  | bash => "bash"
  | sh => "sh"

/-- The form that a dialect uses for a word: bash turns to escapes as soon as a byte is not
printable ASCII, the other dialect never does. -/
def form (d : Dialect) (word : Bytes) : Form :=
  if word.isEmpty then .empty
  else if isBare word then .bare
  else
    match d with
    | bash => if needsEscape word then .escapeQuoted else .singleQuoted
    | sh => .singleQuoted

/-- The word in the form that the dialect picks. -/
def write (d : Dialect) (word : Bytes) : Bytes := (d.form word).render word

/-- The word quoted for the dialect, unless it holds a zero byte. -/
def quote (d : Dialect) (word : Bytes) : Except NulByte Bytes := do
  checkNoNul word
  return d.write word

/-- Appends the quoted word to what was written before. -/
def quoteOnto (d : Dialect) (before word : Bytes) : Except NulByte Bytes := do
  return before ++ (← d.quote word)

end Dialect

end ShellWord
