import ShellWord.Text.Identifier
import ShellWord.Text.Newline

/-!
# Tokens of Python source

Source text is read as names, numbers, strings and marks, and the layout of its lines as tokens
of its own: the end of a logical line, and the beginning and end of an indented block. Inside
brackets, line ends and indentation mean nothing.
-/

namespace ShellWord.StyleCheck

/-- A string as it is written: the letters before it, and what stands between its quotes. -/
structure StringLiteral where
  marks : List Char
  body : List Char
  deriving DecidableEq, Repr

/-- Whether a string has a mark, in either case. -/
def StringLiteral.has (s : StringLiteral) (mark : Char) : Bool :=
  s.marks.any fun c => c.toLower = mark

/-- What a number is. Only integers are told apart by their value. -/
inductive Numeral
  | integer (n : Nat)
  | float
  | imaginary
  deriving DecidableEq, Repr

/-- What a token is. -/
inductive Symbol
  /-- A name or a keyword. -/
  | name (s : String)
  | number (n : Numeral)
  | string (s : StringLiteral)
  /-- An operator, a bracket or other punctuation. -/
  | mark (s : String)
  /-- The end of a logical line. -/
  | newline
  | indent
  | dedent
  /-- The end of the source. -/
  | finish
  deriving DecidableEq, Repr

/-- A token, with the number of the line that it begins on. -/
structure Token where
  line : Nat
  symbol : Symbol
  deriving DecidableEq, Repr

/-! ## Strings -/

/-- The content of a string on one line up to its closing quote, and the rest of the text. A
backslash keeps the character after it from ending the string. -/
def lineString (quote : Char) : List Char → Option (List Char × List Char)
  | [] => none
  | c :: rest =>
    if c = quote then some ([], rest)
    else if c = '\n' then none
    else if c = '\\' then
      match rest with
      | [] => none
      | d :: after => (lineString quote after).map fun (cs, r) => (c :: d :: cs, r)
    else (lineString quote rest).map fun (cs, r) => (c :: cs, r)

/-- The content of a string up to its three closing quotes, and the rest of the text. -/
def longString (quote : Char) : List Char → Option (List Char × List Char)
  | [] => none
  | c :: rest =>
    if c = quote ∧ rest.take 2 = [quote, quote] then some ([], rest.drop 2)
    else if c = '\\' then
      match rest with
      | [] => none
      | d :: after => (longString quote after).map fun (cs, r) => (c :: d :: cs, r)
    else (longString quote rest).map fun (cs, r) => (c :: cs, r)

/-- A string that begins with its quotes. -/
def stringBody? : List Char → Option (List Char × List Char)
  | [] => none
  | quote :: rest =>
    if quote ≠ '\x27' ∧ quote ≠ '\x22' then none
    else if rest.take 2 = [quote, quote] then longString quote (rest.drop 2)
    else lineString quote rest

/-- The marks that may stand before a string. -/
def stringMarks : List String := ["", "r", "b", "u", "f", "br", "rb", "fr", "rf"]

def beginsString (s : List Char) : Bool := s.head? = some '\x27' || s.head? = some '\x22'

/-- How many letters before a string belong to it; `none` if the text does not begin with a
string. -/
def stringMarksLength? (s : List Char) : Option Nat :=
  [0, 1, 2].find? fun n =>
    beginsString (s.drop n) && stringMarks.contains (String.ofList ((s.take n).map Char.toLower))

/-! ## Numbers -/

/-- Whether a character can be part of a name. -/
def isNameChar (c : Char) : Bool := c.isAlphanum || c = '_' || 0x80 ≤ c.toNat

/-- Skips digits with single underscores between them. The text begins with a digit. -/
def skipDigits (isDigit : Char → Bool) : List Char → Option (List Char)
  | '_' :: c :: rest => if isDigit c then skipDigits isDigit rest else none
  | ['_'] => none
  | c :: rest => if isDigit c then skipDigits isDigit rest else some (c :: rest)
  | [] => some []

/-- Skips one digit or more. -/
def skipSomeDigits (isDigit : Char → Bool) (s : List Char) : Option (List Char) :=
  match s with
  | c :: _ => if isDigit c then skipDigits isDigit s else none
  | [] => none

/-- The keywords that may stand right behind a number. -/
def wordsAfterNumber : List String := ["and", "else", "for", "if", "in", "is", "or", "not"]

/-- Refuses a number that runs into a name. -/
def endNumber (s : List Char) : Option (List Char) :=
  match s with
  | c :: _ =>
    if isNameChar c && !(wordsAfterNumber.any fun w => w.toList.isPrefixOf s) then none else some s
  | [] => some []

/-- Skips an exponent, if there is one. -/
def skipExponent (s : List Char) : Option (List Char) :=
  match s with
  | c :: rest =>
    if c = 'e' ∨ c = 'E' then
      match rest with
      | d :: more =>
        if d.isDigit then skipDigits Char.isDigit rest
        else if d = '+' ∨ d = '-' then skipSomeDigits Char.isDigit more
        else some s
      | [] => some s
    else some s
  | [] => some s

/-- Skips what may follow the digits before the point. The flag says whether these digits are
also an integer by themselves. -/
def skipFraction (integer : Bool) (s : List Char) : Option (List Char) := do
  let (float, s) ←
    match s with
    | '.' :: rest =>
      match rest with
      | d :: _ =>
        if d.isDigit then (skipDigits Char.isDigit rest).map (true, ·) else some (true, rest)
      | [] => some (true, rest)
    | _ => some (false, s)
  let after ← skipExponent s
  -- an exponent was skipped if the text got shorter
  let float := float || after.length < s.length
  match after with
  | c :: rest =>
    if c = 'j' ∨ c = 'J' then endNumber rest
    else if float || integer then endNumber after
    else none
  | [] => if float || integer then some [] else none

/-- The most digits of an integer in base ten. -/
def maxDigits : Nat := 4300

/-- Skips a number. An integer in base ten has no zeros in front, and not too many digits. -/
def skipNumber (s : List Char) : Option (List Char) :=
  match s with
  | '0' :: c :: rest =>
    let skipBase (isDigit : Char → Bool) : Option (List Char) := do
      let rest := if rest.head? = some '_' then rest.drop 1 else rest
      endNumber (← skipSomeDigits isDigit rest)
    if c = 'x' ∨ c = 'X' then
      skipBase fun d => d.isDigit || ('a' ≤ d && d ≤ 'f') || ('A' ≤ d && d ≤ 'F')
    else if c = 'o' ∨ c = 'O' then skipBase fun d => '0' ≤ d && d ≤ '7'
    else if c = 'b' ∨ c = 'B' then skipBase fun d => d = '0' || d = '1'
    else do
      -- zeros in front of other digits are no integer, but may begin a float
      let digits := s.takeWhile fun d => d.isDigit || d = '_'
      let after ← skipDigits Char.isDigit s
      skipFraction (digits.all fun d => d = '0' || d = '_') after
  | '.' :: _ => skipFraction false s
  | _ => do
    let after ← skipDigits Char.isDigit s
    let digits := (s.take (s.length - after.length)).countP Char.isDigit
    skipFraction (digits ≤ maxDigits) after

/-- The value of a digit, which may be a letter. -/
def hexValue (c : Char) : Nat :=
  if c.isDigit then c.toNat - 0x30 else if c.toNat < 0x60 then c.toNat - 0x37 else c.toNat - 0x57

/-- The value of digits in a base. Underscores between them do not count. -/
def digitsValue (base : Nat) (digits : List Char) : Nat :=
  (digits.filter (· ≠ '_')).foldl (fun n c => n * base + hexValue c) 0

/-- A number in base ten as it is written. -/
def decimalNumeral (s : List Char) : Numeral :=
  if s.getLast?.any fun c => c = 'j' || c = 'J' then .imaginary
  else if s.all fun c => c.isDigit || c = '_' then .integer (digitsValue 10 s)
  else .float

/-- A number as it is written. -/
def numeralOf (s : List Char) : Numeral :=
  match s with
  | '0' :: c :: digits =>
    if c = 'x' ∨ c = 'X' then .integer (digitsValue 16 digits)
    else if c = 'o' ∨ c = 'O' then .integer (digitsValue 8 digits)
    else if c = 'b' ∨ c = 'B' then .integer (digitsValue 2 digits)
    else decimalNumeral s
  | _ => decimalNumeral s

/-! ## Lines -/

/-- The marks, where longer ones stand before their beginnings. -/
def marks : List String :=
  ["...", "**=", "//=", "<<=", ">>=", "!=", "%=", "&=", "**", "*=", "+=", "-=", "->", "//", "/=",
   ":=", "<<", "<=", "==", ">=", ">>", "@=", "^=", "|=", "%", "&", "(", ")", "*", "+", ",", "-",
   ".", "/", ":", ";", "<", "=", ">", "@", "[", "]", "^", "\x7b", "|", "\x7d", "~"]

/-- The bracket that closes an opening bracket. -/
def closing? (bracket : String) : Option String :=
  if bracket = "(" then some ")"
  else if bracket = "[" then some "]"
  else if bracket = "\x7b" then some "\x7d"
  else none

/-- The words that are no names. -/
def keywords : List String :=
  ["False", "None", "True", "and", "as", "assert", "async", "await", "break", "class", "continue",
   "def", "del", "elif", "else", "except", "finally", "for", "from", "global", "if", "import",
   "in", "is", "lambda", "nonlocal", "not", "or", "pass", "raise", "return", "try", "while",
   "with", "yield"]

/-- The names that have a meaning of their own in some places. -/
def softKeywords : List String := ["match", "case", "_"]

/-- The name that a word stands for. Variants of characters count as those characters, but a
variant of a word with a meaning of its own is a name like any other. -/
def nameOf (word : List Char) : String :=
  let plain := String.ofList (Identifier.plain word)
  if keywords.contains plain || softKeywords.contains plain then String.ofList word else plain

/-- The width of a line's indentation. Tabs go to the next multiple of eight in one count and
are one wide in the other; the two counts have to agree about what is deeper. -/
structure Indent where
  wide : Nat := 0
  narrow : Nat := 0
  deriving DecidableEq, Repr

/-- The deepest indentation and the deepest nesting of brackets. -/
def maxIndents : Nat := 100

/-- The deepest nesting of brackets. -/
def maxBrackets : Nat := 200

/-- What has been seen of the layout. -/
structure Layout where
  line : Nat := 1
  /-- The brackets that are open, by what closes them. -/
  brackets : List String := []
  /-- The indentation of the open blocks, the innermost first. -/
  indents : List Indent := []
  deriving Repr

/-- The beginning of a line: how deep it is, how many lines were joined to it, and the text that
follows. -/
structure Margin where
  indent : Indent
  joined : Nat
  text : List Char
  deriving DecidableEq, Repr

/-- Measures the beginning of a line. A backslash joins the next line, unless the text ends there.
Blanks go on counting after it, but the width before the first backslash, if there is any, is the
one that holds: `kept` is that width, or zero. -/
def measure (i : Indent) (kept joined : Nat) : List Char → Option Margin
  | ' ' :: rest => measure ⟨i.wide + 1, i.narrow + 1⟩ kept joined rest
  | '\t' :: rest => measure ⟨(i.wide / 8 + 1) * 8, i.narrow + 1⟩ kept joined rest
  | '\x0c' :: rest => measure {} kept joined rest
  | '\\' :: '\n' :: c :: rest =>
    measure i (if kept = 0 then i.wide else kept) (joined + 1) (c :: rest)
  | '\\' :: _ => none
  | s => some ⟨if kept = 0 then i else ⟨kept, kept⟩, joined, s⟩

/-- Ends the blocks that are deeper than an indentation: the blocks that stay, and how many
end. -/
def outdent (i : Indent) : List Indent → Nat → Option (List Indent × Nat)
  | [], n => if i.wide = 0 ∧ i.narrow = 0 then some ([], n) else none
  | top :: below, n =>
    if top.wide = i.wide then (if top.narrow = i.narrow then some (top :: below, n) else none)
    else if top.wide < i.wide then none
    else outdent i below (n + 1)

/-- Compares an indentation with the open blocks: the blocks after it, and the tokens for it. -/
def indentation (layout : Layout) (i : Indent) : Option (Layout × List Token) :=
  let top := layout.indents.head?.getD {}
  -- both counts have to say the same of what is deeper
  if i.wide = top.wide then
    if i.narrow = top.narrow then some (layout, []) else none
  else if top.wide < i.wide then
    if i.narrow ≤ top.narrow ∨ maxIndents ≤ layout.indents.length + 1 then none
    else some ({ layout with indents := i :: layout.indents }, [⟨layout.line, .indent⟩])
  else do
    let (indents, n) ← outdent i layout.indents 0
    return ({ layout with indents }, List.replicate n ⟨layout.line, .dedent⟩)

/-- How many line ends a text holds. -/
def countLines (s : List Char) : Nat := s.count '\n'

/-- The tokens of a text. The flag tells whether a line begins, the first number bounds the
steps. -/
def tokensFrom : Nat → Bool → Layout → List Char → Option (List Token)
  | 0, _, _, _ => none
  | n + 1, true, layout, s => do
    let margin ← measure {} 0 0 s
    let layout := { layout with line := layout.line + margin.joined }
    -- lines without a token do not count for the indentation
    match margin.text with
    | [] => tokensFrom n false layout []
    | '\n' :: rest => tokensFrom n true { layout with line := layout.line + 1 } rest
    | '#' :: rest => tokensFrom n true layout (rest.dropWhile (· ≠ '\n'))
    | text => do
      let (layout, front) ← indentation layout margin.indent
      return front ++ (← tokensFrom n false layout text)
  | n + 1, false, layout, s =>
    match s with
    | [] =>
      if layout.brackets.isEmpty then
        some (layout.indents.map (fun _ => ⟨layout.line, .dedent⟩) ++ [⟨layout.line, .finish⟩])
      else none
    | c :: rest =>
      let emit (layout : Layout) (symbol : Symbol) (line : Nat) (rest : List Char) :
          Option (List Token) := do
        return ⟨line, symbol⟩ :: (← tokensFrom n false layout rest)
      if c = ' ' ∨ c = '\t' ∨ c = '\x0c' then tokensFrom n false layout rest
      else if c = '#' then tokensFrom n false layout (rest.dropWhile (· ≠ '\n'))
      else if c = '\n' then
        let next := { layout with line := layout.line + 1 }
        -- inside brackets the line goes on
        if layout.brackets.isEmpty then do
          return ⟨layout.line, .newline⟩ :: (← tokensFrom n true next rest)
        else tokensFrom n false next rest
      else if c = '\\' then
        match rest with
        | '\n' :: d :: after =>
          tokensFrom n false { layout with line := layout.line + 1 } (d :: after)
        | _ => none
      else
        match stringMarksLength? s with
        | some count => do
          let (body, after) ← stringBody? (s.drop count)
          emit { layout with line := layout.line + countLines body }
            (.string ⟨s.take count, body⟩) layout.line after
        | none =>
          if c.isDigit ∨ (c = '.' ∧ (rest.head?.map Char.isDigit).getD false) then do
            let after ← skipNumber s
            emit layout (.number (numeralOf (s.take (s.length - after.length)))) layout.line after
          else if isNameChar c then
            let word := s.takeWhile isNameChar
            if Identifier.isValid word then
              emit layout (.name (nameOf word)) layout.line (s.dropWhile isNameChar)
            else none
          else do
            let mark ← marks.find? fun m => m.toList.isPrefixOf s
            let after := s.drop mark.length
            match closing? mark with
            | some close =>
              if maxBrackets ≤ layout.brackets.length then none
              else
                emit { layout with brackets := close :: layout.brackets } (.mark mark) layout.line
                  after
            | none =>
              if mark = ")" ∨ mark = "]" ∨ mark = "\x7d" then
                match layout.brackets with
                | top :: below =>
                  if top = mark then
                    emit { layout with brackets := below } (.mark mark) layout.line after
                  else none
                | [] => none
              else emit layout (.mark mark) layout.line after

/-- The text with every line end as a line feed, and with one at its very end. Behind a carriage
return with a line feed at the end of the text comes one more, empty line. -/
def sourceLines (s : List Char) : List Char :=
  let lines := unifyNewlines s
  if lines.getLast? = some '\n' ∧ ¬ ['\r', '\n'].isSuffixOf s then lines else lines ++ ['\n']

/-- The tokens of source text. -/
def tokens? (s : List Char) : Option (List Token) :=
  let s := sourceLines s
  tokensFrom (2 * s.length + 2) true {} s

/-- The tokens of an expression that is part of a string, which begins on a given line. Line ends
in it mean nothing. -/
def expressionTokens? (line : Nat) (s : List Char) : Option (List Token) :=
  let s := '(' :: s ++ [')']
  tokensFrom (2 * s.length + 2) false { line } s

end ShellWord.StyleCheck
