import ShellWord.Toml.Text

/-!
# Documents

A document is a sequence of statements: entries `key = value`, and headers that choose the table
for the entries after them. What a statement may do depends on how the tables it meets came
about: inline tables and arrays never change, a table with a header of its own is opened only
once, and a table made by a dotted key belongs to the section of that key. `Marks` records this.
-/

namespace ShellWord.Toml

/-! ## Tables -/

def lookup? (key : String) (t : Table) : Option Value := List.lookup key t

/-- Puts a new value in the place of an old one. -/
def replace (key : String) (v : Value) (t : Table) : Table :=
  t.map fun (k, old) => if k = key then (k, v) else (k, old)

/-- Applies a change to the table at the end of a path of keys. Tables that are missing on the
way are made. An array of tables stands for its last table, unless `arrays` are not to be
entered. -/
def changeAt (arrays : Bool) (change : Table → Option Table) : List String → Table → Option Table
  | [], t => change t
  | key :: path, t =>
    match lookup? key t with
    | none => do return t ++ [(key, .table (← changeAt arrays change path []))]
    | some (.table inner) => do
      return replace key (.table (← changeAt arrays change path inner)) t
    | some (.array items) =>
      match arrays, items.getLast? with
      | true, some (.table inner) => do
        let inner ← changeAt arrays change path inner
        return replace key (.array (items.dropLast ++ [.table inner])) t
      | _, _ => none
    | some _ => none

/-- Adds an entry whose key is new. -/
def addEntry (key : String) (v : Value) (t : Table) : Option Table :=
  match lookup? key t with
  | none => some (t ++ [(key, v)])
  | some _ => none

/-- Adds an empty table to an array of tables, which is made if it is missing. -/
def addToArray (key : String) (t : Table) : Option Table :=
  match lookup? key t with
  | none => some (t ++ [(key, .array [.table []])])
  | some (.array items) => some (replace key (.array (items ++ [.table []])) t)
  | some _ => none

/-! ## Marks -/

/-- What is known about the tables of a document, by their paths. -/
structure Marks where
  /-- Nothing at or below these paths changes any more. -/
  frozen : List (List String) := []
  /-- No header opens these paths again. -/
  declared : List (List String) := []
  /-- Paths that are declared as soon as the section ends. -/
  pending : List (List String) := []
  deriving Repr

namespace Marks

/-- Whether a path is frozen, itself or from above. -/
def isFrozen (m : Marks) (path : List String) : Bool :=
  m.frozen.any fun p => p.isPrefixOf path

def isDeclared (m : Marks) (path : List String) : Bool := m.declared.contains path

def freeze (m : Marks) (path : List String) : Marks := { m with frozen := path :: m.frozen }

def declare (m : Marks) (path : List String) : Marks := { m with declared := path :: m.declared }

def endSection (m : Marks) : Marks := { m with declared := m.pending ++ m.declared, pending := [] }

/-- Forgets a path and all below it. -/
def forget (m : Marks) (path : List String) : Marks :=
  { m with
    frozen := m.frozen.filter fun p => !path.isPrefixOf p
    declared := m.declared.filter fun p => !path.isPrefixOf p }

end Marks

/-! ## Values -/

/-- Whether a value has parts. -/
def Value.isCompound : Value → Bool
  | .array _ => true
  | .table _ => true
  | _ => false

/-- Adds an entry with a dotted key to an inline table. Compound values of earlier entries are
frozen. -/
def addInline (frozen : List (List String)) (key : List String) (v : Value) (t : Table) :
    Option Table :=
  if frozen.any fun p => p.isPrefixOf key then none
  else
    match key.getLast? with
    | none => none
    | some stem => changeAt false (addEntry stem v) key.dropLast t

mutual

/-- A value. The number bounds the steps of the reader. -/
def value? : Nat → Reader Value
  | 0, _ => none
  | n + 1, s =>
    match s with
    | '[' :: rest => do
      let rest ← skipFiller (rest.length + 1) rest
      match rest with
      | ']' :: rest => return (.array [], rest)
      | _ =>
        let (items, rest) ← items? n rest
        return (.array items, rest)
    | '\x7b' :: rest =>
      match skipBlanks rest with
      | '\x7d' :: rest => some (.table [], rest)
      | rest => do
        let (entries, rest) ← entries? n [] [] rest
        return (.table entries, rest)
    | '\x22' :: _ => (string? s).map fun (t, r) => (.text t, r)
    | '\x27' :: _ => (string? s).map fun (t, r) => (.text t, r)
    | 't' :: 'r' :: 'u' :: 'e' :: rest => some (.boolean true, rest)
    | 'f' :: 'a' :: 'l' :: 's' :: 'e' :: rest => some (.boolean false, rest)
    | _ => scalar? s

/-- The items of an array, up to and including its closing bracket. -/
def items? : Nat → Reader (List Value)
  | 0, _ => none
  | n + 1, s => do
    let (v, rest) ← value? n s
    let rest ← skipFiller (rest.length + 1) rest
    match rest with
    | ']' :: rest => return ([v], rest)
    | ',' :: rest =>
      let rest ← skipFiller (rest.length + 1) rest
      match rest with
      | ']' :: rest => return ([v], rest)
      | _ =>
        let (more, rest) ← items? n rest
        return (v :: more, rest)
    | _ => none

/-- The entries of an inline table, up to and including its closing brace, added to those that
were read before. -/
def entries? : Nat → List (List String) → Table → Reader Table
  | 0, _, _, _ => none
  | n + 1, frozen, t, s => do
    let (key, rest) ← key? s
    match rest with
    | '=' :: rest =>
      let (v, rest) ← value? n (skipBlanks rest)
      let t ← addInline frozen key v t
      match skipBlanks rest with
      | '\x7d' :: rest => return (t, rest)
      | ',' :: rest =>
        entries? n (if v.isCompound then key :: frozen else frozen) t (skipBlanks rest)
      | _ => none
    | _ => none

end

/-! ## Statements -/

/-- What has been read of a document. -/
structure Document where
  /-- The outermost table. -/
  root : Table := []
  marks : Marks := {}
  /-- The path of the table that the entries belong to. -/
  header : List String := []
  deriving Repr

namespace Document

/-- The beginnings of a path, without the empty one and the whole. -/
def innerPaths (path : List String) : List (List String) :=
  (List.range (path.length - 1)).map fun i => path.take (i + 1)

/-- Adds an entry `key = value` to the table of the section. -/
def entry (doc : Document) (key : List String) (v : Value) : Option Document :=
  let inner := (innerPaths key).map (doc.header ++ ·)
  let parent := doc.header ++ key.dropLast
  -- dotted keys do not add to tables that have a header of their own
  if inner.any doc.marks.isDeclared || doc.marks.isFrozen parent then none
  else
    match key.getLast? with
    | none => none
    | some stem => do
      let root ← changeAt true (addEntry stem v) parent doc.root
      let marks := { doc.marks with pending := inner ++ doc.marks.pending }
      let marks := if v.isCompound then marks.freeze (doc.header ++ key) else marks
      return { doc with root, marks }

/-- Opens a table by its header. -/
def openTable (doc : Document) (path : List String) : Option Document :=
  let marks := doc.marks.endSection
  if marks.isDeclared path || marks.isFrozen path then none
  else do
    let root ← changeAt true some path doc.root
    return { root, marks := marks.declare path, header := path }

/-- Opens the next table of an array of tables by its header. -/
def openNext (doc : Document) (path : List String) : Option Document :=
  let marks := doc.marks.endSection
  if marks.isFrozen path then none
  else
    match path.getLast? with
    | none => none
    | some stem => do
      let root ← changeAt true (addToArray stem) path.dropLast doc.root
      return { root, marks := (marks.forget path).declare path, header := path }

/-- Reads one statement, which begins with the first character of the text. -/
def statement (doc : Document) (s : List Char) : Option (Document × List Char) :=
  match s with
  | '[' :: '[' :: rest => do
    let (path, rest) ← key? (skipBlanks rest)
    match rest with
    | ']' :: ']' :: rest => return (← doc.openNext path, rest)
    | _ => none
  | '[' :: rest => do
    let (path, rest) ← key? (skipBlanks rest)
    match rest with
    | ']' :: rest => return (← doc.openTable path, rest)
    | _ => none
  | _ => do
    let (key, rest) ← key? s
    match rest with
    | '=' :: rest =>
      let rest := skipBlanks rest
      let (v, rest) ← value? (2 * rest.length + 2) rest
      return (← doc.entry key v, rest)
    | _ => none

/-- Reads statements up to the end of the text, one line at a time. -/
def statements : Nat → Document → List Char → Option Document
  | 0, _, _ => none
  | n + 1, doc, s =>
    match skipBlanks s with
    | [] => some doc
    | '\n' :: rest => statements n doc rest
    | s => do
      let (doc, rest) ← if s.head? = some '#' then some (doc, s) else doc.statement s
      -- behind a statement its line holds nothing but a comment
      match ← skipComment (skipBlanks rest) with
      | [] => some doc
      | '\n' :: rest => statements n doc rest
      | _ => none

end Document

/-- The text with a plain line end for each pair of carriage return and line end. -/
def plainNewlines : List Char → List Char
  | '\r' :: '\n' :: rest => '\n' :: plainNewlines rest
  | c :: rest => c :: plainNewlines rest
  | [] => []

/-- The table that a text describes, if it is a document. -/
def table? (text : String) : Option Table :=
  let s := plainNewlines text.toList
  (Document.statements (s.length + 1) {} s).map Document.root

end ShellWord.Toml
