import ShellWord.Quote.Dialect
import ShellWord.Text.Blank
import ShellWord.Text.Lowercase

/-!
# Names of dialects

A dialect is named in any mixture of cases, with blanks around the name.
-/

namespace ShellWord

/-- A name that no dialect has. -/
structure UnknownDialect where
  name : String
  deriving DecidableEq, Repr

/-- The report of an unknown name, which shows it as it was given. -/
def UnknownDialect.message (e : UnknownDialect) : String :=
  let choices := ", ".intercalate (Dialect.all.map Dialect.name)
  s!"unknown dialect '{e.name}', expected one of: {choices}"

def Dialect.ofName (name : String) : Except UnknownDialect Dialect :=
  let key := lowercaseText (strip name.toList)
  match Dialect.all.find? fun d => d.name.toList = key with
  | some d => .ok d
  | none => .error ⟨name⟩

end ShellWord
