/-!
# Tokens of a shell line

A shell reads a line as words, operators and line ends. A word goes on until a blank, an operator
or a line end that stands outside all quotes and substitutions; `scanWord` keeps a stack of the
constructs that are open. A text whose last word does not end has no tokens from there on, and is
marked as broken at that place.
-/

namespace ShellWord.ShellLine

/-- A construct that keeps a word from ending. -/
inductive Construct
  /-- `'...'`, without escapes. -/
  | single
  /-- `$'...'`, where a backslash escapes. -/
  | escaped
  /-- `"..."`, where substitutions go on. -/
  | double
  /-- Between backquotes. -/
  | backquote
  /-- `$(...)`, `<(...)`, and parentheses inside them. -/
  | parenthesis
  /-- The braces of a parameter. -/
  | brace
  /-- `$[...]`. -/
  | bracket
  deriving DecidableEq, Repr

def Construct.closing : Construct → Char
  | single => '\x27'
  | escaped => '\x27'
  | double => '\x22'
  | backquote => '\x60'
  | parenthesis => ')'
  | brace => '\x7d'
  | bracket => ']'

/-- What a character opens, given the one after it, inside a construct or outside all. The number
says how many characters open it. -/
def opens? (inside : Option Construct) (c : Char) (next : Option Char) :
    Option (Construct × Nat) :=
  match inside with
  | some .single | some .escaped | some .backquote => none
  | some .double =>
    if c = '\x60' then some (.backquote, 1)
    else if c = '$' ∧ next = some '(' then some (.parenthesis, 2)
    else if c = '$' ∧ next = some '\x7b' then some (.brace, 2)
    else none
  | some .parenthesis | some .brace | some .bracket | none =>
    if c = '\x27' then some (.single, 1)
    else if c = '\x22' then some (.double, 1)
    else if c = '\x60' then some (.backquote, 1)
    else if c = '$' ∧ next = some '\x27' then some (.escaped, 2)
    else if c = '$' ∧ next = some '\x22' then some (.double, 2)
    else if (c = '$' ∨ c = '<' ∨ c = '>') ∧ next = some '(' then some (.parenthesis, 2)
    else if c = '$' ∧ next = some '\x7b' then some (.brace, 2)
    else if c = '$' ∧ next = some '[' then some (.bracket, 2)
    else if c = '(' ∧ inside = some .parenthesis then some (.parenthesis, 1)
    else none

/-- The characters that end a word outside all constructs. -/
def endsWord (c : Char) : Bool := " \t\n()<>;&|".toList.contains c

/-- Puts characters in front of a word that has been read. -/
def prepend (cs : List Char) (r : Option (List Char × List Char)) :
    Option (List Char × List Char) :=
  r.map fun (word, after) => (cs ++ word, after)

/-- Reads a word with the given constructs open: its characters, and the rest of the text. There
is no word if the text ends inside a construct. -/
def scanWord (stack : List Construct) : List Char → Option (List Char × List Char)
  | [] => if stack.isEmpty then some ([], []) else none
  | c :: rest =>
    -- a backslash joins lines, or keeps the next character from meaning anything
    if c = '\\' ∧ stack.head? ≠ some .single then
      match rest with
      | [] => if stack.isEmpty then some ([c], []) else none
      | d :: after =>
        if d = '\n' then scanWord stack after else prepend [c, d] (scanWord stack after)
    else if stack.head?.map Construct.closing = some c then
      prepend [c] (scanWord stack.tail rest)
    else
      match opens? stack.head? c rest.head? with
      | some (construct, 1) => prepend [c] (scanWord (construct :: stack) rest)
      | some (construct, _) =>
        match rest with
        | [] => none
        | d :: after => prepend [c, d] (scanWord (construct :: stack) after)
      | none =>
        if stack.isEmpty ∧ endsWord c then some ([], c :: rest)
        -- the second of two dollar signs opens nothing
        else if c = '$' ∧ rest.head? = some '$' then
          match rest with
          | [] => none
          | d :: after => prepend [c, d] (scanWord stack after)
        else prepend [c] (scanWord stack rest)

/-- A word as it is written, with the places where it starts and stops. -/
structure RawWord where
  text : List Char
  start : Nat
  stop : Nat
  deriving DecidableEq, Repr

inductive Token
  | word (w : RawWord)
  /-- A number right before a redirection. -/
  | number (start stop : Nat)
  | operator (symbol : String) (start stop : Nat)
  | newline
  /-- The end of the text. -/
  | finish
  /-- A word begins here that does not end. -/
  | broken
  deriving DecidableEq, Repr

/-- The operators, where longer ones stand before their beginnings. -/
def operators : List String :=
  ["&>>", "<<<", "<<-", ";;&", "&&", "||", ";;", ">>", "<<", "<&", ">&", "<>", ">|", "&>", "|&",
   ";&", "(", ")", ";", "&", "|", "<", ">"]

/-- The operator that a text begins with. -/
def operator? (s : List Char) : Option String :=
  operators.find? fun symbol => symbol.toList.isPrefixOf s

/-- Whether a text begins with a substitution that looks like a redirection. -/
def startsSubstitution : List Char → Bool
  | '<' :: '(' :: _ => true
  | '>' :: '(' :: _ => true
  | _ => false

/-- Whether digits that are followed by this text belong to a redirection. -/
def isRedirectionNumber (word rest : List Char) : Bool :=
  word.all Char.isDigit && (rest.head? = some '<' || rest.head? = some '>')

/-- The tokens of a text that begins at a place. The first number bounds the steps. -/
def tokensFrom : Nat → Nat → List Char → List Token
  | 0, _, _ => [.broken]
  | _ + 1, _, [] => [.finish]
  | n + 1, place, c :: rest =>
    if c = ' ' ∨ c = '\t' then tokensFrom n (place + 1) rest
    else if c = '\n' then .newline :: tokensFrom n (place + 1) rest
    else if c = '#' then
      let comment := rest.takeWhile (· ≠ '\n')
      tokensFrom n (place + 1 + comment.length) (rest.dropWhile (· ≠ '\n'))
    else
      match (if startsSubstitution (c :: rest) then none else operator? (c :: rest)) with
      | some symbol =>
        let stop := place + symbol.length
        .operator symbol place stop :: tokensFrom n stop ((c :: rest).drop symbol.length)
      | none =>
        match scanWord [] (c :: rest) with
        | none => [.broken]
        | some (word, after) =>
          let stop := place + (rest.length + 1 - after.length)
          if word.isEmpty then tokensFrom n stop after
          else if isRedirectionNumber word after then
            .number place stop :: tokensFrom n stop after
          else .word ⟨word, place, stop⟩ :: tokensFrom n stop after

/-- The tokens of a text that begins at a place. -/
def tokens (place : Nat) (s : List Char) : List Token := tokensFrom (s.length + 1) place s

end ShellWord.ShellLine
