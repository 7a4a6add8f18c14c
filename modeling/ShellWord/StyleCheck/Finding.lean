import ShellWord.StyleCheck.Program
import ShellWord.Text.Lowercase

/-!
# Banned constructions

A library that quotes has no use for other quoting modules, so its sources do not import them.
What it writes is ASCII, so they do not decode as Latin-1, which would hide bytes beyond ASCII.
-/

namespace ShellWord.StyleCheck

/-- A banned construction, with the line that it begins on. -/
structure Finding where
  line : Nat
  description : String
  deriving DecidableEq, Repr

/-- The modules that are not to be imported. -/
def bannedModules : List String := ["shlex", "pipes"]

/-- The names of the encoding that is not to be decoded from. -/
def bannedEncodings : List String := ["latin-1", "latin1", "iso-8859-1"]

/-- Whether a module is banned: the first component of its name decides. -/
def isBannedModule (module : DottedName) : Bool := module.head?.any bannedModules.contains

/-- Whether a text names a banned encoding, in any case. -/
def isBannedEncoding (s : List Char) : Bool :=
  bannedEncodings.contains (String.ofList (lowercaseText s))

/-- A dotted name as it is written. -/
def DottedName.toString (name : DottedName) : String := ".".intercalate name

def importFinding (line : Nat) (module : DottedName) : Finding :=
  ⟨line, s!"import {module.toString}: banned, use shellquote quoters"⟩

def decodeFinding (line : Nat) : Finding :=
  ⟨line, "decode(latin-1): banned, quoted output is ASCII"⟩

/-- The modules that a node imports from by itself. -/
def Node.importedModules (n : Node) : List DottedName :=
  match n.kind with
  | .importNames modules => modules
  | .importFrom _ module? => module?.toList
  | _ => []

/-- Why source text is refused. -/
inductive SourceFault
  /-- The text holds a zero character. -/
  | nul
  | syntaxError
  /-- A constant integer is too long to be written out. -/
  | longInteger
  deriving DecidableEq, Repr

/-- The report of source text that is refused for another reason than its syntax. -/
def SourceFault.message : SourceFault → String
  | nul => "source code string cannot contain null bytes"
  | syntaxError => ""
  | longInteger =>
    s!"Exceeds the limit ({maxDigits} digits) for integer string conversion; " ++
      "use sys.set_int_max_str_digits() to increase the limit"

/-- The least integer with too many digits to be written out. -/
def leastLong : Nat := Nat.pow 10 maxDigits

/-- Whether a constant, written out, names a banned encoding. Only a text can; but every integer
is written out to see it, and one with too many digits cannot be. -/
def Constant.isBannedEncoding : Constant → Except SourceFault Bool
  | text s => .ok (StyleCheck.isBannedEncoding s)
  | integer n => if leastLong ≤ n then .error .longInteger else .ok false
  | _ => .ok false

/-- The constant that is the first positional argument in a call of the method `decode`. -/
def Node.decodeConstant? (n : Node) : Option Constant :=
  match n.kind, n.parts with
  | .call (_ + 1), function :: argument :: _ =>
    match function.kind, argument.kind with
    | .attribute name, .constant c => if name = "decode" then some c else none
    | _, _ => none
  | _, _ => none

/-- Whether a node is a call that decodes from a banned encoding. -/
def Node.isBannedDecode (n : Node) : Except SourceFault Bool :=
  match n.decodeConstant? with
  | some c => c.isBannedEncoding
  | none => .ok false

/-- The findings for a node by itself. -/
def Node.ownFindings (n : Node) : Except SourceFault (List Finding) := do
  let imports := (n.importedModules.filter isBannedModule).map (importFinding n.line)
  return imports ++ if ← n.isBannedDecode then [decodeFinding n.line] else []

def Node.findings (n : Node) : Except SourceFault (List Finding) := do
  return (← n.breadthFirst.mapM Node.ownFindings).flatten

def checkSource (source : List Char) : Except SourceFault (List Finding) :=
  if source.contains '\x00' then .error .nul
  else
    match parse? source with
    | some tree => tree.findings
    | none => .error .syntaxError

end ShellWord.StyleCheck
