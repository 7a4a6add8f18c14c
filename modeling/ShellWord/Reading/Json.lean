/-!
# Reading JSON

A reader for JSON texts, written from the standard and not from any writer. Values keep what the
standard gives them: numbers are a mantissa times a power of ten, objects keep the order of their
members, and strings are sequences of characters, so an escape of half a surrogate pair is refused.
-/

namespace ShellWord.Reading

/-- A JSON value. -/
inductive Json
  | null
  | bool (b : Bool)
  /-- A mantissa times ten to an exponent. -/
  | number (mantissa exponent : Int)
  | string (s : List Char)
  | array (items : List Json)
  | object (members : List (List Char × Json))
  deriving Repr

namespace Json

def skipBlanks (s : List Char) : List Char :=
  s.dropWhile fun c => c = ' ' || c = '\t' || c = '\n' || c = '\r'

/-! ## Strings -/

def hexDigit? (c : Char) : Option Nat :=
  if '0' ≤ c ∧ c ≤ '9' then some (c.toNat - 0x30)
  else if 'a' ≤ c ∧ c ≤ 'f' then some (c.toNat - 0x57)
  else if 'A' ≤ c ∧ c ≤ 'F' then some (c.toNat - 0x37)
  else none

/-- The number of the four hexadecimal digits at the beginning of a text. -/
def unit? : List Char → Option Nat
  | a :: b :: c :: d :: _ => do
    return (← hexDigit? a) * 0x1000 + (← hexDigit? b) * 0x100 + (← hexDigit? c) * 0x10 +
      (← hexDigit? d)
  | _ => none

/-- The character of the unit escapes whose digits begin a text, and how many characters they
take. The second half of a surrogate pair is an escape of its own. -/
def unitEscape? (s : List Char) : Option (Char × Nat) := do
  let first ← unit? s
  if 0xD800 ≤ first ∧ first < 0xDC00 then
    match s.drop 4 with
    | '\\' :: 'u' :: more =>
      let second ← unit? more
      if 0xDC00 ≤ second ∧ second < 0xE000 then
        return (Char.ofNat (0x10000 + (first - 0xD800) * 0x400 + (second - 0xDC00)), 10)
      else none
    | _ => none
  else if 0xDC00 ≤ first ∧ first < 0xE000 then none
  else return (Char.ofNat first, 4)

/-- What stands behind a backslash: its character, and how many characters it takes. -/
def escape? : List Char → Option (Char × Nat)
  | [] => none
  | c :: rest =>
    if c = '\x22' ∨ c = '\\' ∨ c = '/' then some (c, 1)
    else if c = 'b' then some ('\x08', 1)
    else if c = 'f' then some ('\x0c', 1)
    else if c = 'n' then some ('\n', 1)
    else if c = 'r' then some ('\r', 1)
    else if c = 't' then some ('\t', 1)
    else if c = 'u' then (unitEscape? rest).map fun (d, n) => (d, n + 1)
    else none

/-- Reads a string up to its closing quote: the string, and the text behind it. The number counts
characters that an escape has taken already. -/
def stringFrom : Nat → List Char → Option (List Char × List Char)
  | _, [] => none
  | n + 1, _ :: rest => stringFrom n rest
  | 0, c :: rest =>
    if c = '\x22' then some ([], rest)
    else if c.toNat < 0x20 then none
    else if c = '\\' then do
      let (d, n) ← escape? rest
      let (s, after) ← stringFrom n rest
      return (d :: s, after)
    else do
      let (s, after) ← stringFrom 0 rest
      return (c :: s, after)

/-! ## Numbers -/

def digitsValue (digits : List Char) : Nat :=
  digits.foldl (fun n c => n * 10 + (c.toNat - 0x30)) 0

/-- Splits off one decimal digit or more. -/
def digits? (s : List Char) : Option (List Char × List Char) :=
  let digits := s.takeWhile Char.isDigit
  if digits.isEmpty then none else some (digits, s.dropWhile Char.isDigit)

/-- The digits behind a point, if there is one. -/
def fraction? : List Char → Option (List Char × List Char)
  | '.' :: rest => digits? rest
  | s => some ([], s)

/-- A sign, if there is one: whether it is a minus sign. -/
def sign : List Char → Bool × List Char
  | '-' :: rest => (true, rest)
  | '+' :: rest => (false, rest)
  | s => (false, s)

/-- A natural number with a sign. -/
def signed (negative : Bool) (n : Nat) : Int := if negative then -n else n

/-- The exponent, if there is one. -/
def exponent? (s : List Char) : Option (Int × List Char) :=
  match s with
  | c :: rest =>
    if c = 'e' ∨ c = 'E' then do
      let (negative, rest) := sign rest
      let (digits, after) ← digits? rest
      return (signed negative (digitsValue digits), after)
    else some (0, s)
  | [] => some (0, [])

/-- Reads a number. Its integer part has no zeros in front. -/
def number? (s : List Char) : Option (Json × List Char) := do
  let (negative, s) := match s with
    | '-' :: rest => (true, rest)
    | _ => (false, s)
  let (whole, s) ← digits? s
  if whole.head? = some '0' ∧ whole.length ≠ 1 then none
  else
    let (fraction, s) ← fraction? s
    let (exponent, s) ← exponent? s
    let mantissa := signed negative (digitsValue (whole ++ fraction))
    return (number mantissa (exponent - fraction.length), s)

/-! ## Values -/

/-- The words that are values. -/
def words : List (String × Json) := [("null", null), ("true", bool true), ("false", bool false)]

/-- Reads a word or a number. -/
def plain? (s : List Char) : Option (Json × List Char) :=
  match words.find? fun w => w.1.toList.isPrefixOf s with
  | some (word, value) => some (value, s.drop word.length)
  | none => number? s

mutual

/-- Reads a value at the beginning of a text. The number bounds the nesting and the length of what
is read. -/
def value? : Nat → List Char → Option (Json × List Char)
  | 0, _ => none
  | _ + 1, [] => none
  | n + 1, c :: rest =>
    if c = '\x22' then (stringFrom 0 rest).map fun (s, after) => (string s, after)
    else if c = '[' then
      match skipBlanks rest with
      | ']' :: after => some (array [], after)
      | inside => (items? n inside).map fun (vs, after) => (array vs, after)
    else if c = '\x7b' then
      match skipBlanks rest with
      | '\x7d' :: after => some (object [], after)
      | inside => (members? n inside).map fun (ms, after) => (object ms, after)
    else plain? (c :: rest)

/-- Reads the items of an array, and the closing bracket. -/
def items? : Nat → List Char → Option (List Json × List Char)
  | 0, _ => none
  | n + 1, s => do
    let (v, after) ← value? n s
    match skipBlanks after with
    | ',' :: more => do
      let (vs, after) ← items? n (skipBlanks more)
      return (v :: vs, after)
    | ']' :: after => return ([v], after)
    | _ => none

/-- Reads the members of an object, and the closing brace. -/
def members? : Nat → List Char → Option (List (List Char × Json) × List Char)
  | 0, _ => none
  | _ + 1, [] => none
  | n + 1, c :: rest =>
    if c ≠ '\x22' then none
    else do
      let (key, after) ← stringFrom 0 rest
      match skipBlanks after with
      | ':' :: more => do
        let (v, after) ← value? n (skipBlanks more)
        match skipBlanks after with
        | ',' :: more => do
          let (ms, after) ← members? n (skipBlanks more)
          return ((key, v) :: ms, after)
        | '\x7d' :: after => return ([(key, v)], after)
        | _ => none
      | _ => none

end

/-- Reads a whole text as one value. -/
def ofText? (s : List Char) : Option Json := do
  let (v, after) ← value? (s.length + 1) (skipBlanks s)
  if (skipBlanks after).isEmpty then return v else none

end Json

end ShellWord.Reading
