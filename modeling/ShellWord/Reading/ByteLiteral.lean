import ShellWord.Byte.Class
import ShellWord.Reading.Json

/-!
# Reading literals of bytes

A literal of bytes is `b'...'` or `b"..."`. Between the quotes, ASCII characters stand for
themselves and a backslash begins an escape; an escape that is not known stands for itself.
-/

namespace ShellWord.Reading.ByteLiteral

/-- The byte of an ASCII character. -/
def byteOf (c : Char) : UInt8 := UInt8.ofNat c.toNat

/-- The letters that stand for one byte behind a backslash. -/
def letterEscapes : List (Char × UInt8) :=
  [('\\', 0x5C), ('\x27', 0x27), ('\x22', 0x22), ('a', 0x07), ('b', 0x08), ('t', 0x09),
   ('n', 0x0A), ('v', 0x0B), ('f', 0x0C), ('r', 0x0D)]

/-- The bytes of an escape with octal digits, at most three, and how many it takes. -/
def octalEscape (s : List Char) : Bytes × Nat :=
  let digits := (s.take 3).takeWhile fun c => '0' ≤ c && c ≤ '7'
  ([UInt8.ofNat (digits.foldl (fun n c => n * 8 + (c.toNat - 0x30)) 0)], digits.length)

/-- What stands behind a backslash: its bytes, and how many characters it takes. At the end of a
line it stands for nothing. -/
def escape? : List Char → Option (Bytes × Nat)
  | [] => none
  | c :: rest =>
    if c = '\n' then some ([], 1)
    else if c = 'x' then
      match rest with
      | a :: b :: _ => do
        return ([UInt8.ofNat ((← Json.hexDigit? a) * 0x10 + (← Json.hexDigit? b))], 3)
      | _ => none
    else if '0' ≤ c ∧ c ≤ '7' then some (octalEscape (c :: rest))
    else
      match letterEscapes.lookup c with
      | some b => some ([b], 1)
      | none => if c.toNat < 0x80 then some ([0x5C, byteOf c], 1) else none

/-- Reads the inside of a literal up to its closing quote, which has to end the text. The number
counts characters that an escape has taken already. -/
def insideFrom (quote : Char) : Nat → List Char → Option Bytes
  | _, [] => none
  | n + 1, _ :: rest => insideFrom quote n rest
  | 0, c :: rest =>
    if c = quote then (if rest.isEmpty then some [] else none)
    else if c = '\\' then do
      let (bs, n) ← escape? rest
      return bs ++ (← insideFrom quote n rest)
    else if c = '\n' ∨ 0x80 ≤ c.toNat then none
    else do return byteOf c :: (← insideFrom quote 0 rest)

/-- The data of a literal. -/
def ofText? : List Char → Option Bytes
  | 'b' :: quote :: rest =>
    if quote = '\x27' ∨ quote = '\x22' then insideFrom quote 0 rest else none
  | _ => none

end ShellWord.Reading.ByteLiteral
