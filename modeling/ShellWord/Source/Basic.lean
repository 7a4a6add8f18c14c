import ShellWord.Path.Basic
import ShellWord.Text.Utf8

/-!
# Sources

A word to quote may be given as raw bytes, as a view of bytes, as text or as a path. `Source.data`
reduces every source to the bytes that a shell would see, or says why there are none.
-/

namespace ShellWord

/-- A view of stored bytes as a sequence of items of one size, of which every `step`-th is
visible; a negative step reads from the end. -/
structure View where
  /-- The stored bytes. -/
  stored : Bytes
  /-- How many bytes an item has. -/
  itemSize : Nat
  /-- Whether the items are plain bytes. -/
  plain : Bool
  /-- Every how many items one is visible. -/
  step : Option Int
  deriving DecidableEq, Repr

namespace View

/-- Cuts a list into chunks of a size; a chunk at the end may be shorter. -/
def chunks (size : Nat) (data : Bytes) : List Bytes :=
  (List.range ((data.length + size - 1) / size)).map fun i => (data.drop (i * size)).take size

/-- The first item and every `n`-th after it. -/
def everyNth {α : Type} (n : Nat) (items : List α) : List α :=
  (items.zipIdx.filter fun p => p.2 % n = 0).map Prod.fst

def items (v : View) : List Bytes :=
  let all := chunks v.itemSize v.stored
  match v.step with
  | none => all
  | some n => if 0 ≤ n then everyNth n.natAbs all else everyNth n.natAbs all.reverse

def bytes (v : View) : Bytes := v.items.flatten

/-- Whether the visible items lie side by side in the stored bytes, in their order. -/
def isContiguous (v : View) : Bool :=
  v.items.length ≤ 1 || (match v.step with | none => true | some n => n = 1)

end View

/-- What a custom path object answers when it is asked for its path. -/
inductive PathAnswer
  | text (s : Text)
  | bytes (data : Bytes)
  /-- Something that is no path; its type is known by name. -/
  | other (typeName : String)
  deriving DecidableEq, Repr

/-- The things that can be offered for quoting. -/
inductive Source
  /-- Bytes, in a container that may or may not be changed later. -/
  | bytes (data : Bytes)
  | view (v : View)
  | text (s : Text)
  /-- A path, which is put into its plainest spelling. -/
  | path (s : Text)
  /-- An object with a path of its own making. -/
  | pathObject (typeName : String) (answer : PathAnswer)
  /-- Anything else; its type is known by name. -/
  | other (typeName : String)
  deriving DecidableEq, Repr

/-- Why a source has no bytes. -/
inductive SourceError
  | unencodable (e : Utf8.Unencodable)
  /-- The items of a view must lie side by side to be taken as bytes. -/
  | scatteredItems
  /-- A path object answered something that is no path. -/
  | notAPath (objectType answerType : String)
  /-- Nothing of this type can be quoted. -/
  | unsupported (typeName : String)
  deriving DecidableEq, Repr

def SourceError.message : SourceError → String
  | unencodable e => e.message
  | scatteredItems => "memoryview: casts are restricted to C-contiguous views"
  | notAPath objectType answerType =>
    s!"expected {objectType}.__fspath__() to return str or bytes, not {answerType}"
  | unsupported typeName => s!"cannot quote '{typeName}', expected bytes, str or path"

namespace Source

def encodeText (s : Text) : Except SourceError Bytes :=
  match Utf8.encode s with
  | .ok data => .ok data
  | .error e => .error (.unencodable e)

def data : Source → Except SourceError Bytes
  | bytes data => .ok data
  | view v => if v.plain || v.isContiguous then .ok v.bytes else .error .scatteredItems
  | text s => encodeText s
  | path s => encodeText (plainPath (CodePoint.ofChar '/') (CodePoint.ofChar '.') s)
  | pathObject _ (.text s) => encodeText s
  | pathObject _ (.bytes data) => .ok data
  | pathObject objectType (.other answerType) => .error (.notAPath objectType answerType)
  | other typeName => .error (.unsupported typeName)

/-- Whether the bytes of a source lie scattered in memory. -/
def isScattered : Source → Bool
  | view v => !v.isContiguous
  | _ => false

end Source

end ShellWord
