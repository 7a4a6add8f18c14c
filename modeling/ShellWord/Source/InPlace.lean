import ShellWord.Source.Sink

/-!
# Writing in place

A buffer of bytes is extended in place: the quoted word is written at its end piece by piece. A
procedure that writes can fail on the way, and what it has written by then stays. Every other sink
receives its word when it is finished. `Sink.append` follows both ways, and tells which sink it
leaves behind even when it fails.
-/

namespace ShellWord

/-- A procedure that writes at the end of a buffer. When it fails, what it wrote before stays. -/
abbrev Writing := ExceptT QuoteError (StateM Bytes)

namespace Writing

/-- Writes a piece at the end of the buffer. -/
def piece (data : Bytes) : Writing Unit := modify (· ++ data)

/-- Runs a procedure on a buffer: the outcome, and the buffer that is left. -/
def runOn {α : Type} (x : Writing α) (buffer : Bytes) : Except QuoteError α × Bytes :=
  StateT.run (ExceptT.run x) buffer

end Writing

open Writing (piece)

def EscapeQuoted.writing (word : Bytes) : Writing Unit := do
  piece opening
  piece (word.flatMap escape)
  piece closing

/-- Writes the single-quoted form of a word byte by byte, from a state of the pass on. -/
def SingleQuoted.writingFrom (s : State) : Bytes → Writing Unit
  | [] => do
    piece s.flushed
    piece s.closed
  | b :: rest => do
    piece (s.step b).2
    writingFrom (s.step b).1 rest

/-- Writes a word in a form. Only the bare form copies the word as it lies in memory, which fails
if it lies scattered. -/
def Form.writing (scattered : Bool) (word : Bytes) : Form → Writing Unit
  | .empty => piece [0x27, 0x27]
  | .bare => if scattered then throw .scatteredCopy else piece word
  | .escapeQuoted => EscapeQuoted.writing word
  | .singleQuoted => SingleQuoted.writingFrom .start word

def Dialect.writing (d : Dialect) (scattered : Bool) (word : Bytes) : Writing Unit :=
  match checkNoNul word with
  | .error e => throw (.nul e)
  | .ok () => (d.form word).writing scattered word

namespace Sink

/-- Appends a source, quoted, to the sink: the sink that is left, and the outcome. A buffer is
written in place; for other sinks the word is finished in a buffer of its own. -/
def append (sink : Sink) (source : Source) (d : Dialect) : Sink × Except PushError Unit :=
  match source.data with
  | .error e => (sink, .error (.quote (.source e)))
  | .ok word =>
    let writing := d.writing source.isScattered word
    match sink with
    | .buffer content =>
      let (outcome, content) := writing.runOn content
      (.buffer content, outcome.mapError .quote)
    | sink =>
      match writing.runOn [] with
      | (.error e, _) => (sink, .error (.quote e))
      | (.ok (), finished) =>
        match sink.accept finished with
        | .ok sink => (sink, .ok ())
        | .error e => (sink, .error e)

/-- Appends sources one after another, whatever becomes of each: the sink that is left in the end,
and the outcomes. -/
def appendAll (sink : Sink) : List (Source × Dialect) → Sink × List (Except PushError Unit)
  | [] => (sink, [])
  | (source, d) :: rest =>
    let (sink, outcome) := sink.append source d
    let (sink, outcomes) := sink.appendAll rest
    (sink, outcome :: outcomes)

end Sink

end ShellWord
