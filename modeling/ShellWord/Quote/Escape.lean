import ShellWord.Byte.Class

/-!
# The escape-quoted form

`$'...'`: a single-quoted group in which a backslash starts an escape. It can carry every byte as
printable ASCII, and only bash reads it. Bytes with a mnemonic use it (`\n`), other bytes outside
printable ASCII are written as `\x` and exactly two digits, because at most two are read after it.
-/

namespace ShellWord.EscapeQuoted

/-- A hexadecimal digit, `0` to `9` and then `A` to `F`. -/
def hexDigit (n : UInt8) : UInt8 := if n < 10 then 0x30 + n else 0x37 + n

/-- The letter that follows the backslash for a byte that has a short escape. -/
def mnemonic? (b : UInt8) : Option UInt8 :=
  if b = 0x07 then some 0x61
  else if b = 0x08 then some 0x62
  else if b = 0x09 then some 0x74
  else if b = 0x0A then some 0x6E
  else if b = 0x0B then some 0x76
  else if b = 0x0C then some 0x66
  else if b = 0x0D then some 0x72
  else if b = 0x5C then some 0x5C
  else if b = 0x27 then some 0x27
  else none

/-- How one byte is written inside the group. -/
def escape (b : UInt8) : Bytes :=
  match mnemonic? b with
  | some letter => [0x5C, letter]
  | none =>
    match ByteClass.of b with
    | .control | .high | .nul => [0x5C, 0x78, hexDigit (b >>> 4), hexDigit (b &&& 0x0F)]
    | .bare | .literal | .quote => [b]

/-- What stands before the escapes: `$'`. -/
def opening : Bytes := [0x24, 0x27]

def closing : Bytes := [0x27]

/-- The whole word as one escape-quoted group. -/
def render (word : Bytes) : Bytes := opening ++ word.flatMap escape ++ closing

end ShellWord.EscapeQuoted
