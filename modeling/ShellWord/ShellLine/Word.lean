import ShellWord.ShellLine.Node

/-!
# The text of a word

What a word says once its quotes are removed. Expansions are not carried out: they stay in the
text as they are written, but a command that is substituted has to be one. Quotes are removed
character by character, so what stands between single quotes is read like the rest, unless the
word is one single-quoted group or begins with a double quote.
-/

namespace ShellWord.ShellLine

/-- Why a word cannot be expanded. -/
inductive ExpandError
  /-- What is substituted is no command, or does not end. -/
  | notACommand
  | arithmeticExpansion
  | arithmeticSubstitution
  /-- A backquote stands alone. -/
  | loneBackquote
  deriving DecidableEq, Repr

/-- The report of a word that cannot be expanded. -/
def ExpandError.message : ExpandError → String
  | notACommand => ""
  | arithmeticExpansion => "arithmetic expansion"
  | arithmeticSubstitution => "arithmetic substitution"
  | loneBackquote =>
    "ParsingError.__init__() missing 2 required positional arguments: 's' and 'position'"

/-- The text up to and including a character, and the rest. -/
def through (c : Char) (s : List Char) : Option (List Char × List Char) :=
  match s.dropWhile (· ≠ c) with
  | [] => none
  | d :: rest => some (s.takeWhile (· ≠ c) ++ [d], rest)

/-- The characters that are a parameter when they follow a dollar sign. -/
def isSpecialParameter (c : Char) : Bool := c.isDigit || "$#?-!*@".toList.contains c

/-- A substituted command: the text from after its opening through its closing. -/
def substituted (closing : Char) (s : List Char) : Except ExpandError (List Char × List Char) :=
  match through closing s with
  | some (inside, rest) =>
    if isCommandText inside.dropLast then .ok (inside, rest) else .error .notACommand
  | none => .error .notACommand

/-- The text of a word from some place on. Single quotes stay if `keepQuotes` says so. The number
bounds the characters to read. -/
def textFrom (keepQuotes : Bool) : Nat → List Char → Except ExpandError (List Char)
  | 0, _ => .ok []
  | _ + 1, [] => .ok []
  | n + 1, c :: rest =>
    let keep (cs : List Char) (rest : List Char) : Except ExpandError (List Char) := do
      return cs ++ (← textFrom keepQuotes n rest)
    let command (front : List Char) (rest : List Char) : Except ExpandError (List Char) := do
      let (inside, after) ← substituted ')' rest
      keep (front ++ inside) after
    if c = '\x22' then keep [] rest
    else if c = '\x27' then keep (if keepQuotes then [c] else []) rest
    else if c = '\\' then keep (rest.take 1) (rest.drop 1)
    else if c = '$' then
      match rest with
      | '(' :: '(' :: _ => .error .arithmeticExpansion
      | '[' :: _ => .error .arithmeticSubstitution
      | '(' :: after => command ['$', '('] after
      | '\x7b' :: after =>
        match through '\x7d' after with
        | some (inside, after) => keep ('$' :: '\x7b' :: inside) after
        | none => .error .notACommand
      | d :: after => if isSpecialParameter d then keep ['$', d] after else keep ['$'] rest
      | [] => keep ['$'] []
    else if c = '\x60' then
      match rest with
      | '\x60' :: after => keep ['\x60', '\x60'] after
      | _ =>
        if rest.contains '\x60' then do
          let (inside, after) ← substituted '\x60' rest
          keep ('\x60' :: inside) after
        else .error .loneBackquote
    else if (c = '<' ∨ c = '>') ∧ rest.head? = some '(' then command [c, '('] (rest.drop 1)
    else keep [c] rest

def wordText (word : List Char) : Except ExpandError (List Char) :=
  if word.head? = some '\x27' ∧ word.getLast? = some '\x27' then .ok word.tail.dropLast
  else textFrom (word.head? = some '\x22') word.length word

end ShellWord.ShellLine
