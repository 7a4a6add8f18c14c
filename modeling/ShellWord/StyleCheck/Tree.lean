/-!
# Syntax trees

A syntax tree holds what the style rules look at: imports, calls, attributes and constants, each
with the line that it begins on, and all other constructs as nodes that only have parts. The parts
of a node are in the order of its fields. `Node.breadthFirst` visits all nodes of one depth
before deeper ones; `Node.preorder` visits a node before its parts.
-/

namespace ShellWord.StyleCheck

/-- A dotted name, as its components. -/
abbrev DottedName := List String

/-- A constant in a program. -/
inductive Constant
  | text (s : List Char)
  | bytes
  | integer (n : Nat)
  /-- A number that is no integer. -/
  | number
  /-- `None`, `True`, `False` or the ellipsis. -/
  | singleton
  deriving DecidableEq, Repr

/-- What a node is. -/
inductive NodeKind
  /-- `import`, with the modules that it names. -/
  | importNames (modules : List DottedName)
  /-- `from ... import`, with the number of leading dots and the module, if one is named. -/
  | importFrom (level : Nat) (module : Option DottedName)
  /-- A call. Its parts are the function, this many positional arguments, and keyword
  arguments. -/
  | call (positional : Nat)
  | attribute (name : String)
  | constant (c : Constant)
  | name
  | subscript
  | starred
  | tuple
  | list
  /-- Any other construct. -/
  | other
  deriving DecidableEq, Repr

/-- A node of a syntax tree. -/
inductive Node
  | mk (line : Nat) (kind : NodeKind) (parts : List Node)
  deriving Repr

namespace Node

def line : Node → Nat
  | mk l _ _ => l

def kind : Node → NodeKind
  | mk _ k _ => k

/-- The parts of a node, in the order of its fields. -/
def parts : Node → List Node
  | mk _ _ ps => ps

@[simp] theorem line_mk (l : Nat) (k : NodeKind) (ps : List Node) : (mk l k ps).line = l := rfl
@[simp] theorem kind_mk (l : Nat) (k : NodeKind) (ps : List Node) : (mk l k ps).kind = k := rfl
@[simp] theorem parts_mk (l : Nat) (k : NodeKind) (ps : List Node) : (mk l k ps).parts = ps := rfl

mutual

/-- Whether two trees are the same. -/
def decEq : (n m : Node) → Decidable (n = m)
  | mk l k ps, mk l' k' ps' =>
    match decEqs ps ps' with
    | .isTrue hparts =>
      if h : l = l' ∧ k = k' then .isTrue (by rw [h.1, h.2, hparts])
      else .isFalse fun hnode => h ⟨(mk.inj hnode).1, (mk.inj hnode).2.1⟩
    | .isFalse hparts => .isFalse fun hnode => hparts (mk.inj hnode).2.2

def decEqs : (ns ms : List Node) → Decidable (ns = ms)
  | [], [] => .isTrue rfl
  | [], m :: rest => .isFalse (List.cons_ne_nil m rest).symm
  | n :: rest, [] => .isFalse (List.cons_ne_nil n rest)
  | n :: ns, m :: ms =>
    match decEq n m, decEqs ns ms with
    | .isTrue hfirst, .isTrue hrest => .isTrue (by rw [hfirst, hrest])
    | .isFalse hfirst, _ => .isFalse fun h => hfirst (List.cons.inj h).1
    | _, .isFalse hrest => .isFalse fun h => hrest (List.cons.inj h).2

end

instance : DecidableEq Node := decEq

mutual

/-- How many nodes a tree has. -/
def size : Node → Nat
  | mk _ _ ps => sizes ps + 1

def sizes : List Node → Nat
  | [] => 0
  | n :: rest => n.size + sizes rest

end

mutual

/-- A node and all below it, each node before its parts. -/
def preorder : Node → List Node
  | mk l k ps => mk l k ps :: preorders ps

def preorders : List Node → List Node
  | [] => []
  | n :: rest => n.preorder ++ preorders rest

end

/-- Takes a number of nodes from the front of a queue; the parts of each node go to its back. -/
def drain : Nat → List Node → List Node
  | 0, _ => []
  | _ + 1, [] => []
  | n + 1, node :: queue => node :: drain n (queue ++ node.parts)

/-- A node and all below it, those of one depth before deeper ones. -/
def breadthFirst (node : Node) : List Node := drain node.size [node]

end Node

end ShellWord.StyleCheck
