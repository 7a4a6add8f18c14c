import ShellWord.Text.Printable
import ShellWord.Text.Utf8

/-!
# Quoted literals

A text or a string of bytes shown as a literal: between quotes, on one line, with everything that
cannot be printed as an escape. Single quotes are used unless the content holds a single quote and
no double quote. A literal of bytes carries the mark `b` and is ASCII.
-/

namespace ShellWord.Literal

/-- The quote that a content is put in. -/
def quoteFor (hasSingle hasDouble : Bool) : Char :=
  if hasSingle && !hasDouble then '\x22' else '\x27'

def escapeChar (quote c : Char) : List Char :=
  if c = quote ∨ c = '\\' then ['\\', c]
  else if c = '\t' then ['\\', 't']
  else if c = '\n' then ['\\', 'n']
  else if c = '\r' then ['\\', 'r']
  else if isPrintable c.toNat then [c]
  else (Utf8.escapeCodePoint c.toNat).toList

def ofText (s : String) : String :=
  let chars := s.toList
  let quote := quoteFor (chars.contains '\x27') (chars.contains '\x22')
  String.ofList (quote :: chars.flatMap (escapeChar quote) ++ [quote])

def hexDigit (n : UInt8) : Char :=
  if n < 10 then Char.ofNat (0x30 + n.toNat) else Char.ofNat (0x57 + n.toNat)

def escapeByte (quote : Char) (b : UInt8) : List Char :=
  let c := Char.ofNat b.toNat
  if c = quote ∨ c = '\\' then ['\\', c]
  else if b = 0x09 then ['\\', 't']
  else if b = 0x0A then ['\\', 'n']
  else if b = 0x0D then ['\\', 'r']
  else if 0x20 ≤ b ∧ b < 0x7F then [c]
  else ['\\', 'x', hexDigit (b >>> 4), hexDigit (b &&& 0x0F)]

/-- The literal of a string of bytes, as characters. -/
def byteChars (data : Bytes) : List Char :=
  let quote := quoteFor (data.contains 0x27) (data.contains 0x22)
  'b' :: quote :: data.flatMap (escapeByte quote) ++ [quote]

def ofBytes (data : Bytes) : String := String.ofList (byteChars data)

end ShellWord.Literal
