import ShellWord.Quote.Dialect
import ShellWord.Text.Literal

/-!
# Lines of the log

Every call is logged as one line that holds one JSON object. All characters outside printable
ASCII are escaped, so a line is one line whatever was quoted.
-/

namespace ShellWord.Journal

/-- A hexadecimal digit for an escape. -/
def hexDigit (n : Nat) : Char := if n < 10 then Char.ofNat (0x30 + n) else Char.ofNat (0x57 + n)

/-- A 16-bit unit as an escape. -/
def unitEscape (n : Nat) : List Char :=
  ['\\', 'u', hexDigit (n / 0x1000 % 16), hexDigit (n / 0x100 % 16), hexDigit (n / 0x10 % 16),
    hexDigit (n % 16)]

/-- A character inside a JSON string. Characters beyond the basic plane become a pair of
units. -/
def escapeChar (c : Char) : List Char :=
  let n := c.toNat
  if c = '\x22' ∨ c = '\\' then ['\\', c]
  else if c = '\n' then ['\\', 'n']
  else if c = '\r' then ['\\', 'r']
  else if c = '\t' then ['\\', 't']
  else if n = 0x08 then ['\\', 'b']
  else if n = 0x0C then ['\\', 'f']
  else if 0x20 ≤ n ∧ n ≤ 0x7E then [c]
  else if n < 0x10000 then unitEscape n
  else unitEscape (0xD800 + (n - 0x10000) / 0x400) ++ unitEscape (0xDC00 + (n - 0x10000) % 0x400)

def quoteChars (s : List Char) : List Char := '\x22' :: s.flatMap escapeChar ++ ['\x22']

/-- A value in a line. -/
inductive Item
  | text (s : String)
  | number (n : Int)
  deriving DecidableEq, Repr

def Item.chars : Item → List Char
  | text s => quoteChars s.toList
  | number n => (toString n).toList

def fieldChars (field : String × Item) : List Char :=
  quoteChars field.1.toList ++ ':' :: ' ' :: field.2.chars

def objectChars (fields : List (String × Item)) : List Char :=
  '\x7b' :: List.intercalate [',', ' '] (fields.map fieldChars) ++ ['\x7d']

/-- One call that is logged. -/
structure Call where
  /-- What happened. -/
  event : String
  dialect : Dialect
  /-- How many bytes the word has. -/
  size : Int
  /-- The word itself. -/
  data : Option Bytes := none
  /-- Why the word was refused. -/
  error : Option String := none
  deriving DecidableEq, Repr

/-- How serious a call is: a call with an error is a warning. -/
def Call.level (c : Call) : String := if c.error.isSome then "warning" else "info"

/-- The fields of a line. The word is shown only in a full log. -/
def Call.fields (full : Bool) (stamp : String) (c : Call) : List (String × Item) :=
  let error := c.error.toList.map fun e => ("error", Item.text e)
  let input :=
    if full then c.data.toList.map fun d => ("input", Item.text (Literal.ofBytes d)) else []
  [("dialect", .text c.dialect.name), ("size", .number c.size)] ++ error ++ input ++
    [("event", .text c.event), ("ts", .text stamp), ("level", .text c.level)]

/-- The line of a call. The stamp tells when it happened. -/
def Call.line (full : Bool) (stamp : String) (c : Call) : Bytes :=
  ascii (String.ofList (objectChars (c.fields full stamp))) ++ [0x0A]

end ShellWord.Journal
