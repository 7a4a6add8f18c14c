import ShellWord.Quote.Dialect
import ShellWord.Text.Utf8

/-!
# Arguments

The arguments of the command are flags that choose a dialect, and words. A `--` ends the flags;
before it, an argument that begins with a minus sign and is no flag is an error, except for the
minus sign alone, which is a word.
-/

namespace ShellWord.Command

/-- What the arguments ask for. -/
structure Arguments where
  /-- The dialect of the last flag. -/
  dialect : Option Dialect
  /-- The words, as the bytes that the operating system passed in. -/
  words : List Bytes
  deriving DecidableEq, Repr

/-- Why arguments are refused. -/
inductive ArgumentError
  | unknownOption (argument : Text)
  | unencodable (e : Utf8.Unencodable)
  deriving DecidableEq, Repr

def ArgumentError.message : ArgumentError → Text
  | unknownOption argument =>
    Text.ofString "unknown option '" ++ argument ++ Text.ofString "'"
  | unencodable e => Text.ofString e.message

/-- The flag that chooses a dialect. -/
def flag (d : Dialect) : Text := Text.ofString ("--" ++ d.name)

def dialectOfFlag? (argument : Text) : Option Dialect :=
  Dialect.all.find? fun d => flag d = argument

theorem dialectOfFlag?_eq_some_iff {argument : Text} {d : Dialect} :
    dialectOfFlag? argument = some d ↔ argument = flag d := by
  constructor
  · intro h
    rw [dialectOfFlag?] at h
    have hflag := List.find?_some h
    exact (of_decide_eq_true hflag).symm
  · rintro rfl
    cases d <;> decide

/-- The argument that ends the flags. -/
def endOfFlags : Text := Text.ofString "--"

def looksLikeOption (argument : Text) : Bool :=
  argument.head? = some (CodePoint.ofChar '-') && argument.length ≠ 1

/-- The bytes of an argument. -/
def wordOf (argument : Text) : Except ArgumentError Bytes :=
  match Utf8.encode argument with
  | .ok word => .ok word
  | .error e => .error (.unencodable e)

namespace Arguments

/-- Reads the arguments that follow those already read into `done`. -/
def readFrom (done : Arguments) : List Text → Except ArgumentError Arguments
  | [] => .ok done
  | argument :: rest =>
    if argument = endOfFlags then do
      return { done with words := done.words ++ (← rest.mapM wordOf) }
    else
      match dialectOfFlag? argument with
      | some d => readFrom { done with dialect := some d } rest
      | none =>
        if looksLikeOption argument then .error (.unknownOption argument)
        else
          match wordOf argument with
          | .ok word => readFrom { done with words := done.words ++ [word] } rest
          | .error e => .error e

def read (arguments : List Text) : Except ArgumentError Arguments := readFrom ⟨none, []⟩ arguments

end Arguments

end ShellWord.Command
