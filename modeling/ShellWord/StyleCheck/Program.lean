import ShellWord.StyleCheck.Statement

/-!
# Programs

The rules of a number of levels of nesting, and the syntax tree of a whole source text.
-/

namespace ShellWord.StyleCheck

open ShellWord.StyleCheck.Parser

/-- The rules of a number of levels of nesting. -/
def rules : Nat → Rules
  | 0 => Rules.none
  | n + 1 =>
    { expression := fun tokens => expression (rules n) tokens
      factor := fun tokens => factor (rules n) tokens
      inversion := fun tokens => inversion (rules n) tokens
      target := fun tokens => target (rules n) tokens
      pattern := fun tokens => pattern (rules n) tokens
      statement := fun tokens => statement (rules n) tokens }

/-- All statements up to the end of the source. -/
def statements (r : Rules) : Parser (List Node) := do
  let all ← many do
    if ← next .finish then return none else return some (← statement r)
  expect .finish
  return all.flatten

/-- The syntax tree of source text. The tree's parts are the statements. Every level of nesting
begins with a character of its own, so the text has fewer levels than characters. -/
def parse? (source : List Char) : Option Node := do
  let tokens ← tokens? source
  let (parts, _) ← (statements (rules (source.length + 1))).run tokens
  return plainNode 1 parts

end ShellWord.StyleCheck
