import ShellWord.Toml.Scalar

/-!
# Strings, keys and comments

Strings come in four kinds: with or without escapes, on one line or on several. Keys are bare
words or one-line strings, joined by dots.
-/

namespace ShellWord.Toml

/-- Blanks within a line. -/
def isLineBlank (c : Char) : Bool := c = ' ' || c = '\t'

/-- Blanks and line ends. -/
def isBlankOrNewline (c : Char) : Bool := isLineBlank c || c = '\n'

/-- Control characters that may stand nowhere: all but the tab, and the line end where `lines`
are allowed. -/
def isIllegal (lines : Bool) (c : Char) : Bool :=
  (c.toNat < 0x20 || c.toNat = 0x7F) && c ≠ '\t' && !(lines && c = '\n')

def skipBlanks (s : List Char) : List Char := s.dropWhile isLineBlank

/-- The text after a comment, if it begins with one; `none` if the comment holds a control
character. -/
def skipComment : List Char → Option (List Char)
  | '#' :: rest =>
    let comment := rest.takeWhile (· ≠ '\n')
    if comment.any (isIllegal false) then none else some (rest.dropWhile (· ≠ '\n'))
  | s => some s

/-- The text after any blanks, line ends and comments. -/
def skipFiller : Nat → List Char → Option (List Char)
  | 0, s => some s
  | n + 1, s =>
    match s.dropWhile isBlankOrNewline with
    | '#' :: rest => do skipFiller n (← skipComment ('#' :: rest))
    | s => some s

/-! ## Strings -/

/-- The character of a one-letter escape. -/
def simpleEscape? : Char → Option Char
  | 'b' => some '\x08'
  | 't' => some '\t'
  | 'n' => some '\n'
  | 'f' => some '\x0c'
  | 'r' => some '\r'
  | '\x22' => some '\x22'
  | '\\' => some '\\'
  | _ => none

/-- The character of an escape by number, written in exactly `count` hexadecimal digits. -/
def numberEscape? (count : Nat) : Reader Char := fun s =>
  let digits := s.take count
  let n := numberOf 16 digits
  if digits.length = count ∧ digits.all isHexDigit ∧ n.isValidChar then
    some (Char.ofNat n, s.drop count)
  else none

/-- What follows a backslash: the characters it stands for. In a string of several lines, a
backslash at the end of a line stands for nothing, and neither do the blanks and line ends after
it. -/
def escape? (lines : Bool) : Reader (List Char)
  | [] => none
  | c :: rest =>
    if lines ∧ c = '\n' then some ([], rest.dropWhile isBlankOrNewline)
    else if lines ∧ isLineBlank c then
      match skipBlanks rest with
      | [] => some ([], [])
      | '\n' :: rest => some ([], rest.dropWhile isBlankOrNewline)
      | _ => none
    else if c = 'u' then (numberEscape? 4 rest).map fun (c, r) => ([c], r)
    else if c = 'U' then (numberEscape? 8 rest).map fun (c, r) => ([c], r)
    else (simpleEscape? c).map fun c => ([c], rest)

/-- The content of a string with escapes up to its closing quotes, of which there are three if
the string may have several lines. The number bounds the characters to read. -/
def basicContent (lines : Bool) : Nat → Reader (List Char)
  | 0, _ => none
  | n + 1, s =>
    match s with
    | [] => none
    | '\x22' :: rest =>
      if lines then
        match rest with
        | '\x22' :: '\x22' :: after => some ([], after)
        | _ => (basicContent lines n rest).map fun (cs, r) => ('\x22' :: cs, r)
      else some ([], rest)
    | '\\' :: rest => do
      let (cs, rest) ← escape? lines rest
      let (more, rest) ← basicContent lines n rest
      return (cs ++ more, rest)
    | c :: rest =>
      if isIllegal lines c then none
      else (basicContent lines n rest).map fun (cs, r) => (c :: cs, r)

/-- The content of a string without escapes up to its closing quotes. -/
def literalContent (lines : Bool) : Reader (List Char)
  | [] => none
  | '\x27' :: rest =>
    if lines then
      match rest with
      | '\x27' :: '\x27' :: after => some ([], after)
      | _ => (literalContent lines rest).map fun (cs, r) => ('\x27' :: cs, r)
    else some ([], rest)
  | c :: rest =>
    if isIllegal lines c then none
    else (literalContent lines rest).map fun (cs, r) => (c :: cs, r)

/-- Up to two quotes right after the closing three belong to the content. -/
def extraQuotes (quote : Char) (content : List Char) : List Char → List Char × List Char
  | a :: b :: rest =>
    if a = quote then
      if b = quote then (content ++ [quote, quote], rest) else (content ++ [quote], b :: rest)
    else (content, a :: b :: rest)
  | [a] => if a = quote then (content ++ [quote], []) else (content, [a])
  | [] => (content, [])

/-- The text after a line end at its very beginning. -/
def skipFirstNewline : List Char → List Char
  | '\n' :: rest => rest
  | s => s

def lineString? : Reader String
  | '\x22' :: rest =>
    (basicContent false (rest.length + 1) rest).map fun (cs, r) => (String.ofList cs, r)
  | '\x27' :: rest => (literalContent false rest).map fun (cs, r) => (String.ofList cs, r)
  | _ => none

/-- A string of any kind. -/
def string? : Reader String
  | '\x22' :: '\x22' :: '\x22' :: rest => do
    let rest := skipFirstNewline rest
    let (content, rest) ← basicContent true (rest.length + 1) rest
    let (content, rest) := extraQuotes '\x22' content rest
    return (String.ofList content, rest)
  | '\x27' :: '\x27' :: '\x27' :: rest => do
    let (content, rest) ← literalContent true (skipFirstNewline rest)
    let (content, rest) := extraQuotes '\x27' content rest
    return (String.ofList content, rest)
  | s => lineString? s

/-! ## Keys -/

/-- The characters of a bare key: ASCII letters, digits, minus sign and underscore. -/
def isKeyChar (c : Char) : Bool := c.isAlphanum || c = '-' || c = '_'

/-- One part of a dotted key. -/
def keyPart? : Reader String
  | [] => none
  | c :: rest =>
    if isKeyChar c then
      some (String.ofList ((c :: rest).takeWhile isKeyChar), (c :: rest).dropWhile isKeyChar)
    else lineString? (c :: rest)

/-- The parts of a dotted key that follow the first, and the blanks after each. -/
def moreKeyParts : Nat → Reader (List String)
  | 0, _ => none
  | n + 1, s =>
    match skipBlanks s with
    | '.' :: rest => do
      let (part, rest) ← keyPart? (skipBlanks rest)
      let (parts, rest) ← moreKeyParts n rest
      return (part :: parts, rest)
    | s => some ([], s)

def key? : Reader (List String) := fun s => do
  let (part, rest) ← keyPart? s
  let (parts, rest) ← moreKeyParts (rest.length + 1) rest
  return (part :: parts, rest)

end ShellWord.Toml
