import ShellWord.Quote.Dialect
import ShellWord.Source.Basic

/-!
# Quoting sources

A source is quoted by reducing it to bytes and quoting those. Scattered bytes cannot be copied
into the output as they lie, so a scattered view is refused exactly when its word would be written
bare.
-/

namespace ShellWord

/-- Why a source cannot be quoted. -/
inductive QuoteError
  | source (e : SourceError)
  | nul (e : NulByte)
  /-- A scattered view cannot be copied into the output as it is. -/
  | scatteredCopy
  deriving DecidableEq, Repr

/-- The report of a source that cannot be quoted. -/
def QuoteError.message : QuoteError → String
  | source e => e.message
  | nul e => e.message
  | scatteredCopy => "can't concat memoryview to bytearray"

def textOfAscii (data : Bytes) : String := String.ofList (data.map fun b => Char.ofNat b.toNat)

namespace Source

/-- The quoted word of a source, as bytes. -/
def quotedBytes (source : Source) (d : Dialect) : Except QuoteError Bytes :=
  match source.data with
  | .error e => .error (.source e)
  | .ok word =>
    match d.quote word with
    | .error e => .error (.nul e)
    | .ok out =>
      if source.isScattered ∧ d.form word = .bare then .error .scatteredCopy else .ok out

/-- The quoted word of a source, as text. -/
def quoted (source : Source) (d : Dialect) : Except QuoteError String := do
  return textOfAscii (← source.quotedBytes d)

/-- The quoted words of sources, separated by spaces. -/
def join (words : List Source) (d : Dialect) : Except QuoteError String := do
  return " ".intercalate (← words.mapM fun w => w.quoted d)

end Source

end ShellWord
