import ShellWord.Source.InPlace

/-!
# Quoted words as text

Quoting gives bytes. Where text is asked for, these are decoded as ASCII, and a byte beyond ASCII
would be one more way to fail. The operations here decode wherever text is handed out.
-/

namespace ShellWord

/-- Data that is no ASCII text: where its first byte beyond ASCII is, and which one it is. -/
structure NotAscii where
  offset : Nat
  byte : UInt8
  deriving DecidableEq, Repr

/-- The report of data that is no ASCII text. -/
def NotAscii.message (e : NotAscii) : String :=
  s!"'ascii' codec can't decode byte 0x{Utf8.hex 2 e.byte.toNat} in position {e.offset}: " ++
    "ordinal not in range(128)"

/-- The characters of ASCII data that begins at an offset. -/
def asciiCharsFrom (offset : Nat) : Bytes → Except NotAscii (List Char)
  | [] => .ok []
  | b :: rest =>
    if b < 0x80 then do return Char.ofNat b.toNat :: (← asciiCharsFrom (offset + 1) rest)
    else .error ⟨offset, b⟩

/-- The text of data, which has to be ASCII. -/
def decodeAscii (data : Bytes) : Except NotAscii String := (asciiCharsFrom 0 data).map String.ofList

/-- Why there is no text: something failed earlier, or the bytes cannot be decoded. -/
inductive DecodingError (ε : Type)
  | earlier (e : ε)
  | notAscii (e : NotAscii)
  deriving DecidableEq, Repr

namespace Source

/-- The quoted word of a source, decoded. -/
def quotedText (source : Source) (d : Dialect) : Except (DecodingError QuoteError) String := do
  let word ← (source.quotedBytes d).mapError .earlier
  (decodeAscii word).mapError .notAscii

/-- The quoted words of sources, each decoded on its own, separated by spaces. -/
def joinedText (words : List Source) (d : Dialect) : Except (DecodingError QuoteError) String := do
  return " ".intercalate (← words.mapM fun w => w.quotedText d)

end Source

namespace Sink

/-- Appends a quoted word to the sink, decoded if the sink takes text. -/
def acceptText (word : Bytes) (sink : Sink) : Except (DecodingError PushError) Sink :=
  let text := (decodeAscii word).mapError .notAscii
  match sink with
  | buffer content => .ok (buffer (content ++ word))
  | list items => do return list (items ++ [← text])
  | textStream content => do return textStream (content ++ (← text))
  | byteStream content => .ok (byteStream (content ++ word))
  | writer mode writes => do
    if ← mode.takesText.mapError .earlier then return writer mode (writes ++ [.text (← text)])
    else return writer mode (writes ++ [.bytes word])

/-- Appends a source, quoted, to the sink, and decoded if the sink takes text: the sink that is
left, and the outcome. As before, a buffer is written in place. -/
def appendText (sink : Sink) (source : Source) (d : Dialect) :
    Sink × Except (DecodingError PushError) Unit :=
  match source.data with
  | .error e => (sink, .error (.earlier (.quote (.source e))))
  | .ok word =>
    let writing := d.writing source.isScattered word
    match sink with
    | .buffer content =>
      let (outcome, content) := writing.runOn content
      (.buffer content, outcome.mapError fun e => .earlier (.quote e))
    | sink =>
      match writing.runOn [] with
      | (.error e, _) => (sink, .error (.earlier (.quote e)))
      | (.ok (), finished) =>
        match sink.acceptText finished with
        | .ok sink => (sink, .ok ())
        | .error e => (sink, .error e)

end Sink

end ShellWord
