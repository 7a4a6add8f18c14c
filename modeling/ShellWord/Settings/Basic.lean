import ShellWord.Path.Basic
import ShellWord.Quote.Dialect

/-!
# Settings

Settings come in layers. Each layer sets some of the fields, and a later layer wins over an
earlier one field by field.
-/

namespace ShellWord

/-- What one layer, or several together, set. -/
structure Settings where
  /-- The dialect to write words for. -/
  dialect : Option Dialect := none
  /-- The file that a log is kept in. -/
  log : Option Path := none
  /-- Whether the log shows the words themselves. -/
  logFull : Option Bool := none
  /-- The file of the last layer. -/
  source : Option String := none
  deriving DecidableEq, Repr

namespace Settings

/-- The dialect that applies: bash unless another one is set. -/
def effectiveDialect (s : Settings) : Dialect := s.dialect.getD .bash

/-- Whether the log shows the words: only if that is set. -/
def effectiveLogFull (s : Settings) : Bool := s.logFull.getD false

/-- The settings of two layers together: what the overlay sets wins. -/
def merge (base overlay : Settings) : Settings where
  dialect := overlay.dialect.or base.dialect
  log := overlay.log.or base.log
  logFull := overlay.logFull.or base.logFull
  source := overlay.source.or base.source

end Settings

end ShellWord
