import ShellWord.ShellLine.Command
import ShellWord.Source.Quoted
import ShellWord.Text.Literal

/-!
# Showing how a shell reads a quoted word

A run quotes its argument, puts it after the command `printf`, and shows the words of that
command. A correctly quoted word is read as one word.
-/

namespace ShellWord.ShellLine

/-- A fault that ends a run without a status. -/
inductive DumpBreak
  | quote (e : QuoteError)
  | expand (e : ExpandError)
  deriving DecidableEq, Repr

/-- How a run ends, with what it has printed. -/
structure Dump where
  ending : Except DumpBreak Nat
  output : String

/-- One line for each word, counted from a number. -/
def wordLines : Nat → List CommandWord → List String
  | _, [] => []
  | n, w :: rest =>
    s!"word {n}: {Literal.ofText w.text} at ({w.start}, {w.stop})" :: wordLines (n + 1) rest

/-- Lines as one text. -/
def linesText (lines : List String) : String := String.join (lines.map (· ++ "\n"))

/-- Quotes a word and shows how it is read. -/
def dumpWord (d : Dialect) (argument : Text) : Dump :=
  match (Source.text argument).quoted d with
  | .error e => ⟨.error (.quote e), ""⟩
  | .ok word =>
    let first := s!"Quoted ({d.name}): {word}"
    match commandWords ("printf " ++ word) with
    | .error (.expand e) => ⟨.error (.expand e), linesText [first]⟩
    | .error _ => ⟨.ok 1, linesText [first, "Parse error"]⟩
    | .ok words =>
      let lines := first :: wordLines 1 (words.drop 1)
      if words.length = 2 then ⟨.ok 0, linesText lines⟩
      else
        ⟨.ok 1, linesText (lines ++ [s!"warning: {words.length - 1} words, expected 1"])⟩

/-- A run: one word, and in front of it perhaps the flag for the plain dialect. -/
def dump (arguments : List Text) : Dump :=
  let (d, rest) :=
    match arguments with
    | first :: rest =>
      if first = Text.ofString "--sh" then (Dialect.sh, rest) else (.bash, arguments)
    | [] => (.bash, [])
  match rest with
  | [word] => dumpWord d word
  | _ => ⟨.ok 1, "Usage: quote-dump.py [--sh] 'word'\n"⟩

end ShellWord.ShellLine
