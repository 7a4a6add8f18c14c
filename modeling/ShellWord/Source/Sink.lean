import ShellWord.Source.Quoted

/-!
# Sinks

A quoted word can be appended to a buffer of bytes, to a list of texts or to a stream. A stream
receives one write per word: text if it is a text stream, bytes otherwise. What kind of stream it
is may have to be read off its mode.
-/

namespace ShellWord

/-- One write to a stream. -/
inductive Write
  | text (s : String)
  | bytes (data : Bytes)
  deriving DecidableEq, Repr

/-- The mode that a stream shows. -/
inductive StreamMode
  /-- The stream has no mode. -/
  | absent
  | text (s : String)
  /-- The mode is a collection, of which only the texts in it matter. -/
  | collection (members : List String)
  /-- The mode is something that holds nothing; its type is known by name. -/
  | other (typeName : String)
  deriving DecidableEq, Repr

/-- What quoted words are appended to. -/
inductive Sink
  | buffer (content : Bytes)
  | list (items : List String)
  | textStream (content : String)
  | byteStream (content : Bytes)
  /-- A stream of which only its mode and the writes to it are known. -/
  | writer (mode : StreamMode) (writes : List Write)
  deriving DecidableEq, Repr

/-- Why a word cannot be appended. -/
inductive PushError
  | quote (e : QuoteError)
  /-- The mode of the stream holds nothing, so it does not tell what the stream takes. -/
  | unreadableMode (typeName : String)
  deriving DecidableEq, Repr

/-- The report of a word that cannot be appended. -/
def PushError.message : PushError → String
  | quote e => e.message
  | unreadableMode typeName => s!"argument of type '{typeName}' is not iterable"

/-- Whether a stream of a mode takes text: it shows a mode, and the mode has no `b`. -/
def StreamMode.takesText : StreamMode → Except PushError Bool
  | absent => .ok false
  | text s => .ok !(s.toList.contains 'b')
  | collection members => .ok !(members.contains "b")
  | other typeName => .error (.unreadableMode typeName)

namespace Sink

def accept (word : Bytes) : Sink → Except PushError Sink
  | buffer content => .ok (buffer (content ++ word))
  | list items => .ok (list (items ++ [textOfAscii word]))
  | textStream content => .ok (textStream (content ++ textOfAscii word))
  | byteStream content => .ok (byteStream (content ++ word))
  | writer mode writes => do
    let write := if ← mode.takesText then Write.text (textOfAscii word) else Write.bytes word
    return writer mode (writes ++ [write])

/-- Quotes a source and appends it to the sink. -/
def push (sink : Sink) (source : Source) (d : Dialect) : Except PushError Sink :=
  match source.quotedBytes d with
  | .error e => .error (.quote e)
  | .ok word => sink.accept word

end Sink

end ShellWord
