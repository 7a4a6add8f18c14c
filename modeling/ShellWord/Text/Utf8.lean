import ShellWord.Byte.Class
import ShellWord.Text.CodePoint

/-!
# UTF-8, with escapes for stray bytes

Decoding cuts the bytes into pieces: well-formed sequences, and maximal beginnings of sequences
that break off. `decode?` accepts well-formed data only and says where and how other data is
malformed; `decodeEscaping` accepts all data and turns each byte of a malformed piece into its
escape code point. `encode` is the way back: escapes become single bytes again, and any other
surrogate is refused.
-/

namespace ShellWord.Utf8

/-! ## Encoding -/

/-- The sequence of one code point. -/
def encodeScalar (n : Nat) : Bytes :=
  if n < 0x80 then [UInt8.ofNat n]
  else if n < 0x800 then [UInt8.ofNat (0xC0 + n / 0x40), UInt8.ofNat (0x80 + n % 0x40)]
  else if n < 0x10000 then
    [UInt8.ofNat (0xE0 + n / 0x1000), UInt8.ofNat (0x80 + n / 0x40 % 0x40),
      UInt8.ofNat (0x80 + n % 0x40)]
  else
    [UInt8.ofNat (0xF0 + n / 0x40000), UInt8.ofNat (0x80 + n / 0x1000 % 0x40),
      UInt8.ofNat (0x80 + n / 0x40 % 0x40), UInt8.ofNat (0x80 + n % 0x40)]

/-- The byte that an escape code point stands for. -/
def unescape (c : CodePoint) : UInt8 := UInt8.ofNat (c.val - 0xDC00)

/-- The code points from `start` up to `stop` cannot be encoded; `first` is the first of them. -/
structure Unencodable where
  start : Nat
  stop : Nat
  first : CodePoint
  deriving DecidableEq, Repr

/-- Encodes text whose first code point has the index `start`. Surrogates are handled a maximal
run at a time: the escapes that lead the run are encoded, and if anything is left of the run,
that is the error. -/
def encodeFrom (start : Nat) (text : Text) : Except Unencodable Bytes :=
  match text with
  | [] => .ok []
  | c :: rest =>
    if c.isSurrogate then
      let run := c :: rest.takeWhile CodePoint.isSurrogate
      match run.dropWhile CodePoint.isEscape with
      | bad :: more => .error ⟨start + run.length - (more.length + 1), start + run.length, bad⟩
      | [] => do
        let tail ← encodeFrom (start + run.length) (rest.dropWhile CodePoint.isSurrogate)
        return run.map unescape ++ tail
    else do
      let tail ← encodeFrom (start + 1) rest
      return encodeScalar c.val ++ tail
termination_by text.length
decreasing_by
  · have := (List.dropWhile_suffix (l := rest) CodePoint.isSurrogate).length_le
    simp only [List.length_cons]
    omega
  · simp

/-- The bytes that a text stands for. -/
def encode (text : Text) : Except Unencodable Bytes := encodeFrom 0 text

def encodeString (s : String) : Bytes := s.toList.flatMap fun c => encodeScalar c.toNat

theorem encodeString_append (a b : String) :
    encodeString (a ++ b) = encodeString a ++ encodeString b := by
  simp [encodeString]

/-! ## Decoding -/

/-- Why a piece of data is not well formed. -/
inductive Fault
  /-- No sequence starts with this byte. -/
  | invalidStart
  /-- The sequence is broken off by a byte that cannot continue it. -/
  | invalidContinuation
  /-- The data ends inside the sequence. -/
  | unexpectedEnd
  deriving DecidableEq, Repr

/-- A piece of the data: a whole sequence, or a maximal part of one that is malformed. -/
inductive Piece
  | scalar (value : Nat) (bytes : Bytes)
  | malformed (fault : Fault) (bytes : Bytes)
  deriving DecidableEq, Repr

/-- The bytes that a piece was cut from. -/
def Piece.bytes : Piece → Bytes
  | scalar _ bytes => bytes
  | malformed _ bytes => bytes

/-- A sequence that has begun and is not complete. -/
structure Partial where
  /-- The bytes so far. -/
  seen : Bytes
  /-- How many bytes are still owed after the next one. -/
  owed : Nat
  /-- The least next byte that continues the sequence. -/
  low : UInt8
  /-- The greatest next byte that continues the sequence. -/
  high : UInt8
  /-- The number that the bytes so far have spelled. -/
  value : Nat
  deriving DecidableEq, Repr

/-- What one byte does between sequences: it is a sequence, it begins one, or it is out of place.
The bounds on the second byte keep out overlong forms, surrogates and numbers beyond the last
code point. -/
def begin (b : UInt8) : Partial ⊕ Piece :=
  if b < 0x80 then .inr (.scalar b.toNat [b])
  else if b < 0xC2 then .inr (.malformed .invalidStart [b])
  else if b < 0xE0 then .inl ⟨[b], 0, 0x80, 0xBF, b.toNat - 0xC0⟩
  else if b = 0xE0 then .inl ⟨[b], 1, 0xA0, 0xBF, 0⟩
  else if b = 0xED then .inl ⟨[b], 1, 0x80, 0x9F, 0xD⟩
  else if b < 0xF0 then .inl ⟨[b], 1, 0x80, 0xBF, b.toNat - 0xE0⟩
  else if b = 0xF0 then .inl ⟨[b], 2, 0x90, 0xBF, 0⟩
  else if b < 0xF4 then .inl ⟨[b], 2, 0x80, 0xBF, b.toNat - 0xF0⟩
  else if b = 0xF4 then .inl ⟨[b], 2, 0x80, 0x8F, 4⟩
  else .inr (.malformed .invalidStart [b])

/-- What one more byte makes of a sequence in progress, if it continues it. -/
def Partial.continue? (p : Partial) (b : UInt8) : Option (Partial ⊕ Piece) :=
  if p.low ≤ b ∧ b ≤ p.high then
    let seen := p.seen ++ [b]
    let value := p.value * 0x40 + (b.toNat - 0x80)
    match p.owed with
    | 0 => some (.inr (.scalar value seen))
    | n + 1 => some (.inl ⟨seen, n, 0x80, 0xBF, value⟩)
  else none

mutual

/-- The pieces of the data that follows a complete sequence. -/
def pieces : Bytes → List Piece
  | [] => []
  | b :: rest =>
    match begin b with
    | .inl p => piecesWithin p rest
    | .inr piece => piece :: pieces rest

/-- The pieces of the data that follows the beginning of a sequence. -/
def piecesWithin (p : Partial) : Bytes → List Piece
  | [] => [.malformed .unexpectedEnd p.seen]
  | b :: rest =>
    match p.continue? b with
    | some (.inl q) => piecesWithin q rest
    | some (.inr piece) => piece :: pieces rest
    | none =>
      -- the byte that breaks the sequence off may begin another
      .malformed .invalidContinuation p.seen ::
        match begin b with
        | .inl q => piecesWithin q rest
        | .inr piece => piece :: pieces rest

end

/-- Data is malformed from the offset `start` on; `bytes` is the malformed piece. -/
structure Malformed where
  start : Nat
  bytes : Bytes
  fault : Fault
  deriving DecidableEq, Repr

/-- The characters of a sequence of pieces that begins at an offset, or its first malformed
piece. -/
def charsOf? (start : Nat) : List Piece → Except Malformed (List Char)
  | [] => .ok []
  | .scalar value bytes :: more => do
    return Char.ofNat value :: (← charsOf? (start + bytes.length) more)
  | .malformed fault bytes :: _ => .error ⟨start, bytes, fault⟩

/-- The characters of well-formed data. -/
def decode? (data : Bytes) : Except Malformed (List Char) := charsOf? 0 (pieces data)

/-- What a piece stands for when stray bytes are escaped. -/
def Piece.escaped : Piece → Text
  | .scalar value _ => [CodePoint.ofNat value]
  | .malformed _ bytes => bytes.map CodePoint.escapeOf

/-- The text of any data: stray bytes become escapes. -/
def decodeEscaping (data : Bytes) : Text := (pieces data).flatMap Piece.escaped

/-! ## Reports -/

/-- The lower-case hexadecimal digits of a number, at least `width` of them. -/
def hex (width n : Nat) : String :=
  let digits := Nat.toDigits 16 n
  String.ofList (List.replicate (width - digits.length) '0' ++ digits)

def Fault.message : Fault → String
  | invalidStart => "invalid start byte"
  | invalidContinuation => "invalid continuation byte"
  | unexpectedEnd => "unexpected end of data"

def Malformed.message (e : Malformed) : String :=
  let place := match e.bytes with
    | [b] => s!"byte 0x{hex 2 b.toNat} in position {e.start}"
    | bytes => s!"bytes in position {e.start}-{e.start + bytes.length - 1}"
  s!"'utf-8' codec can't decode {place}: {e.fault.message}"

/-- A code point beyond printing, as an escape of fixed width. -/
def escapeCodePoint (n : Nat) : String :=
  if n < 0x100 then "\\x" ++ hex 2 n
  else if n < 0x10000 then "\\u" ++ hex 4 n
  else "\\U" ++ hex 8 n

/-- A text in which surrogates are spelled out as escapes. -/
def spellOut (text : Text) : String :=
  String.join (text.map fun c =>
    match c.toChar? with
    | some ch => String.singleton ch
    | none => escapeCodePoint c.val)

def Unencodable.message (e : Unencodable) : String :=
  let place :=
    if e.stop = e.start + 1 then
      s!"character '{escapeCodePoint e.first.val}' in position {e.start}"
    else s!"characters in position {e.start}-{e.stop - 1}"
  s!"'utf-8' codec can't encode {place}: surrogates not allowed"

end ShellWord.Utf8
