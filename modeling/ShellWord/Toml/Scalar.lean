import ShellWord.Toml.Value

/-!
# Numbers, dates and times

Each reader takes the longest beginning of the text that has its form, and returns the value
together with the rest of the text. A date is read before a number, because it begins like one.
-/

namespace ShellWord.Toml

/-- Reads a value from the beginning of a text. -/
abbrev Reader (α : Type) := List Char → Option (α × List Char)

/-- The value of a digit in any base up to 16. -/
def digitValue (c : Char) : Nat :=
  if c.isDigit then c.toNat - 0x30
  else if 'a' ≤ c ∧ c ≤ 'f' then c.toNat - 0x57
  else c.toNat - 0x37

def isHexDigit (c : Char) : Bool := c.isDigit || ('a' ≤ c && c ≤ 'f') || ('A' ≤ c && c ≤ 'F')

/-- The number that digits spell in a base. -/
def numberOf (base : Nat) (digits : List Char) : Nat :=
  digits.foldl (fun n c => n * base + digitValue c) 0

/-- The digits that may follow a first digit: each may have one underscore in front of it. -/
def moreDigits (isDigit : Char → Bool) : List Char → List Char × List Char
  | '_' :: c :: rest =>
    if isDigit c then
      let (digits, rest) := moreDigits isDigit rest
      (c :: digits, rest)
    else ([], '_' :: c :: rest)
  | c :: rest =>
    if isDigit c then
      let (digits, rest) := moreDigits isDigit rest
      (c :: digits, rest)
    else ([], c :: rest)
  | [] => ([], [])

/-- One digit or more, with single underscores between them. -/
def digits? (isDigit : Char → Bool) : Reader (List Char)
  | [] => none
  | c :: rest =>
    if isDigit c then
      let (digits, rest) := moreDigits isDigit rest
      some (c :: digits, rest)
    else none

/-- A number in base 16, 8 or 2, with its mark in front. -/
def prefixed? : Reader Int
  | '0' :: 'x' :: rest => (digits? isHexDigit rest).map fun (d, r) => ((numberOf 16 d : Int), r)
  | '0' :: 'o' :: rest =>
    (digits? (fun c => '0' ≤ c && c ≤ '7') rest).map fun (d, r) => ((numberOf 8 d : Int), r)
  | '0' :: 'b' :: rest =>
    (digits? (fun c => c = '0' || c = '1') rest).map fun (d, r) => ((numberOf 2 d : Int), r)
  | _ => none

/-- A sign, if there is one; the flag says whether it is a minus sign. -/
def sign : List Char → Bool × List Char
  | '-' :: rest => (true, rest)
  | '+' :: rest => (false, rest)
  | s => (false, s)

/-- The digits before the point: a zero alone, or digits that do not begin with zero. -/
def wholeDigits? : Reader (List Char)
  | '0' :: rest => some (['0'], rest)
  | s => digits? Char.isDigit s

/-- The digits after a point, if there are any. -/
def fractionDigits? : Reader (List Char)
  | '.' :: rest => digits? Char.isDigit rest
  | _ => none

def exponent? : Reader Int
  | c :: rest =>
    if c = 'e' ∨ c = 'E' then
      let (negative, rest) := sign rest
      (digits? Char.isDigit rest).map fun (d, r) =>
        ((if negative then -(numberOf 10 d : Int) else (numberOf 10 d : Int)), r)
    else none
  | [] => none

/-- A decimal number. A point or an exponent makes it a floating-point number. -/
def decimal? : Reader Value := fun s => do
  let (negative, rest) := sign s
  let (whole, rest) ← wholeDigits? rest
  let (fraction, afterFraction) := (fractionDigits? rest).getD ([], rest)
  let (exponent, afterExponent) := (exponent? afterFraction).getD (0, afterFraction)
  if fraction.isEmpty ∧ afterExponent.length = afterFraction.length then
    let n : Int := numberOf 10 whole
    return (.integer (if negative then -n else n), rest)
  else
    let d : Decimal := ⟨numberOf 10 (whole ++ fraction), exponent - fraction.length⟩
    return (.float (.ofDecimal negative d), afterExponent)

/-- The names of infinity and of the result that is no number. -/
def special? : Reader Value := fun s =>
  let (negative, rest) := sign s
  match rest with
  | 'i' :: 'n' :: 'f' :: rest => some (.float (.infinite negative), rest)
  | 'n' :: 'a' :: 'n' :: rest => some (.float .nan, rest)
  | _ => none

/-- Exactly `count` digits whose number lies between two bounds. -/
def fixed? (count low high : Nat) : Reader Nat := fun s =>
  let digits := s.take count
  let n := numberOf 10 digits
  if digits.length = count ∧ digits.all Char.isDigit ∧ low ≤ n ∧ n ≤ high then
    some (n, s.drop count)
  else none

/-- One given character. -/
def mark? (c : Char) : Reader Unit
  | d :: rest => if c = d then some ((), rest) else none
  | [] => none

/-- A fraction of a second, cut off after microseconds. -/
def microseconds? : Reader Nat
  | '.' :: rest =>
    let digits := rest.takeWhile Char.isDigit
    if digits.isEmpty then none
    else
      let six := digits.take 6
      some (numberOf 10 six * Nat.pow 10 (6 - six.length), rest.drop digits.length)
  | _ => none

def time? : Reader Time := fun s => do
  let (hour, s) ← fixed? 2 0 23 s
  let (_, s) ← mark? ':' s
  let (minute, s) ← fixed? 2 0 59 s
  let (_, s) ← mark? ':' s
  let (second, s) ← fixed? 2 0 59 s
  let (micro, s) := (microseconds? s).getD (0, s)
  return (⟨hour, minute, second, micro⟩, s)

/-- The form of a date; the calendar need not have the day. -/
def date? : Reader Date := fun s => do
  let (year, s) ← fixed? 4 0 9999 s
  let (_, s) ← mark? '-' s
  let (month, s) ← fixed? 2 1 12 s
  let (_, s) ← mark? '-' s
  let (day, s) ← fixed? 2 1 31 s
  return (⟨year, month, day⟩, s)

/-- An offset from universal time, in minutes. -/
def offset? : Reader Int
  | c :: rest =>
    if c = 'Z' ∨ c = 'z' then some (0, rest)
    else if c = '+' ∨ c = '-' then do
      let (hour, s) ← fixed? 2 0 23 rest
      let (_, s) ← mark? ':' s
      let (minute, s) ← fixed? 2 0 59 s
      let minutes : Int := hour * 60 + minute
      return ((if c = '-' then -minutes else minutes), s)
    else none
  | [] => none

/-- What may follow a date: a mark, a time and perhaps an offset. -/
def timeAfterDate? : Reader (Time × Option Int)
  | c :: rest =>
    if c = 'T' ∨ c = 't' ∨ c = ' ' then do
      let (t, s) ← time? rest
      match offset? s with
      | some (minutes, s) => return ((t, some minutes), s)
      | none => return ((t, none), s)
    else none
  | [] => none

/-- A date, alone or with a time of day; `none` if the calendar does not have the day. -/
def dated (d : Date) (s : List Char) : Option (Value × List Char) :=
  if d.isValid then
    match timeAfterDate? s with
    | some ((t, offset), s) => some (.dateTime d t offset, s)
    | none => some (.date d, s)
  else none

/-- A number, a date or a time. -/
def scalar? : Reader Value := fun s =>
  match date? s with
  | some (d, rest) => dated d rest
  | none =>
    match time? s with
    | some (t, rest) => some (.time t, rest)
    | none =>
      match prefixed? s with
      | some (n, rest) => some (.integer n, rest)
      | none => (decimal? s).or (special? s)

end ShellWord.Toml
