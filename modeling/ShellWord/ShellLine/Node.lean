import ShellWord.ShellLine.Token

/-!
# Commands of a shell line

The tokens of a line form commands: simple commands, pipelines, lists, compound commands and
function definitions. Reserved words count as such only where a command may begin. `readUnit`
reads what stands on one line, or on several if a compound command goes on.
-/

namespace ShellWord.ShellLine

/-- What kind of command a node is. -/
inductive Kind
  | command
  | list
  | pipeline
  | compound
  | function
  deriving DecidableEq, Repr

def Kind.name : Kind → String
  | command => "command"
  | list => "list"
  | pipeline => "pipeline"
  | compound => "compound"
  | function => "function"

/-- A command, with the place where it stops. -/
structure Node where
  kind : Kind
  stop : Nat
  /-- The words of a simple command, without assignments and redirections. -/
  words : List RawWord := []
  /-- All words in the command that are subject to expansion. -/
  expanded : List RawWord := []
  deriving DecidableEq, Repr

/-- Reads something from the beginning of a list of tokens. -/
abbrev Reader (α : Type) := List Token → Option (α × List Token)

/-- The words that begin or continue a compound command. -/
def reservedWords : List String :=
  ["if", "then", "else", "elif", "fi", "for", "while", "until", "do", "done", "case", "esac",
   "select", "function", "\x7b", "\x7d", "!", "time", "[[", "]]"]

/-- The reserved words that only continue or end a command. -/
def closers : List String := ["then", "else", "elif", "fi", "do", "done", "esac", "\x7d"]

/-- The reserved word that a token is. -/
def reserved? : Token → Option String
  | .word w => reservedWords.find? fun r => r.toList = w.text
  | _ => none

/-- The operators that redirect. -/
def redirections : List String :=
  ["&>>", "<<<", ">>", "<&", ">&", "<>", ">|", "&>", "<", ">"]

/-- Whether a word assigns to a variable: a name, perhaps an index and a plus sign, and an equals
sign. -/
def isAssignment (text : List Char) : Bool :=
  let isNameChar (c : Char) : Bool := c.isAlphanum || c = '_'
  let name := text.takeWhile isNameChar
  let rest := text.dropWhile isNameChar
  let rest :=
    match rest with
    | '[' :: more => (more.dropWhile (· ≠ ']')).drop 1
    | _ => rest
  let rest := match rest with
    | '+' :: more => more
    | _ => rest
  (match name with
    | [] => false
    | c :: _ => !c.isDigit) && rest.head? = some '='

/-- The tokens after the line ends at their beginning. -/
def skipNewlines : List Token → List Token
  | .newline :: rest => skipNewlines rest
  | ts => ts

/-- Exactly one reserved word; the place where it stops. -/
def keyword (r : String) : Reader Nat
  | .word w :: rest => if w.text = r.toList then some (w.stop, rest) else none
  | _ => none

/-- Exactly one operator; the place where it stops. -/
def symbol (s : String) : Reader Nat
  | .operator t _ stop :: rest => if s = t then some (stop, rest) else none
  | _ => none

/-- One redirection: its target. -/
def redirection? : Reader RawWord
  | .number _ _ :: .operator s _ _ :: .word w :: rest =>
    if redirections.contains s then some (w, rest) else none
  | .operator s _ _ :: .word w :: rest => if redirections.contains s then some (w, rest) else none
  | _ => none

/-- Whether tokens begin with a redirection, complete or not. -/
def beginsRedirection : List Token → Bool
  | .number _ _ :: _ => true
  | .operator s _ _ :: _ => redirections.contains s
  | _ => false

/-- What has been read of a simple command. -/
structure Simple where
  words : List RawWord := []
  expanded : List RawWord := []
  stop : Nat := 0
  /-- Nothing but assignments has come so far. -/
  fresh : Bool := true

/-- Reads the rest of a simple command. -/
def simpleFrom : Nat → Simple → Reader Simple
  | 0, _, _ => none
  | n + 1, done, ts =>
    match ts with
    | .word w :: rest =>
      let expanded := done.expanded ++ [w]
      -- assignments in front are expanded, but they are no words of the command
      if done.fresh ∧ isAssignment w.text then
        simpleFrom n { done with expanded, stop := w.stop } rest
      else
        simpleFrom n ⟨done.words ++ [w], expanded, w.stop, false⟩ rest
    | ts =>
      if beginsRedirection ts then
        match redirection? ts with
        | some (w, rest) =>
          simpleFrom n ⟨done.words, done.expanded ++ [w], w.stop, false⟩ rest
        | none => none
      else some (done, ts)

/-- A simple command of at least one word, assignment or redirection. -/
def simple? : Reader Node := fun ts => do
  let (s, rest) ← simpleFrom (ts.length + 1) {} ts
  if s.expanded.isEmpty then none
  else some (⟨.command, s.stop, s.words, s.expanded⟩, rest)

/-- The redirections after a compound command. -/
def redirectionsFrom : Nat → Node → Reader Node
  | 0, _, _ => none
  | n + 1, node, ts =>
    if beginsRedirection ts then
      match redirection? ts with
      | some (w, rest) =>
        redirectionsFrom n { node with stop := w.stop, expanded := node.expanded ++ [w] } rest
      | none => none
    else some (node, ts)

/-- A compound command, with the redirections after it. -/
def compound (stop : Nat) (parts : List Node) : Reader Node := fun ts =>
  redirectionsFrom (ts.length + 1) ⟨.compound, stop, [], parts.flatMap Node.expanded⟩ ts

/-- The words of a `for` loop, up to the end of the list. -/
def loopWords : Reader (List RawWord)
  | .word w :: rest => (loopWords rest).map fun (ws, r) => (w :: ws, r)
  | .operator ";" _ _ :: rest => some ([], rest)
  | .newline :: rest => some ([], rest)
  | _ => none

/-- Several commands joined by operators are a list; one command is itself. -/
def listOf (trailing : Option Nat) : List Node → Option Node
  | [] => none
  | [node] =>
    match trailing with
    | none => some node
    | some stop => some ⟨.list, stop, [], node.expanded⟩
  | nodes =>
    nodes.getLast?.map fun last =>
      ⟨.list, trailing.getD last.stop, [], nodes.flatMap Node.expanded⟩

/-- Whether a command may begin with these tokens. -/
def mayBegin : List Token → Bool
  | .word w :: _ => !(closers.any fun r => r.toList = w.text)
  | .number _ _ :: _ => true
  | .operator s _ _ :: _ => s = "(" || redirections.contains s
  | _ => false

mutual

/-- A command that is no pipeline. The number bounds the steps. -/
def command : Nat → Reader Node
  | 0, _ => none
  | n + 1, ts =>
    match ts with
    | .operator "(" _ _ :: rest => do
      let (body, rest) ← body n rest
      let (stop, rest) ← symbol ")" rest
      compound stop [body] rest
    | .word w :: rest =>
      match reserved? (.word w) with
      | some "\x7b" => do
        let (body, rest) ← body n rest
        let (stop, rest) ← keyword "\x7d" rest
        compound stop [body] rest
      | some "if" => branches n [] rest
      | some "while" => loop n [] rest
      | some "until" => loop n [] rest
      | some "for" =>
        match rest with
        | .word _ :: rest =>
          -- without a list of words the loop goes over the parameters
          match rest with
          | .operator ";" _ _ :: rest => loopBody n [] (skipNewlines rest)
          | rest =>
            match skipNewlines rest with
            | .word x :: after =>
              if x.text = "in".toList then do
                let (words, after) ← loopWords after
                loopBody n [⟨.command, x.stop, [], words⟩] (skipNewlines after)
              else loopBody n [] (.word x :: after)
            | _ => none
        | _ => none
      | some "function" =>
        match rest with
        | .word _ :: .operator "(" _ _ :: .operator ")" _ _ :: rest => definition n rest
        | .word _ :: rest => definition n rest
        | _ => none
      | some _ => none
      | none =>
        match rest with
        | .operator "(" _ _ :: .operator ")" _ _ :: rest => definition n rest
        | .operator "(" _ _ :: _ => none
        | _ => simple? ts
    | _ => simple? ts

/-- The body of a function. -/
def definition : Nat → Reader Node
  | 0, _ => none
  | n + 1, ts => do
    let (node, rest) ← command n (skipNewlines ts)
    if node.kind = .compound then some ({ node with kind := .function }, rest) else none

/-- The rest of an `if` command: a condition, a branch, and what follows. -/
def branches : Nat → List Node → Reader Node
  | 0, _, _ => none
  | n + 1, done, ts => do
    let (condition, rest) ← body n ts
    let (_, rest) ← keyword "then" rest
    let (branch, rest) ← body n rest
    let done := done ++ [condition, branch]
    match rest with
    | .word w :: after =>
      if w.text = "elif".toList then branches n done after
      else if w.text = "else".toList then
        let (last, after) ← body n after
        let (stop, after) ← keyword "fi" after
        compound stop (done ++ [last]) after
      else if w.text = "fi".toList then compound w.stop done after
      else none
    | _ => none

/-- The rest of a `while` or `until` command: a condition and a body. -/
def loop : Nat → List Node → Reader Node
  | 0, _, _ => none
  | n + 1, done, ts => do
    let (condition, rest) ← body n ts
    loopBody n (done ++ [condition]) rest

def loopBody : Nat → List Node → Reader Node
  | 0, _, _ => none
  | n + 1, done, ts =>
    match ts with
    | .word w :: rest =>
      if w.text = "do".toList then do
        let (body, rest) ← body n rest
        let (stop, rest) ← keyword "done" rest
        compound stop (done ++ [body]) rest
      else if w.text = ['\x7b'] then do
        let (body, rest) ← body n rest
        let (stop, rest) ← keyword "\x7d" rest
        compound stop (done ++ [body]) rest
      else none
    | _ => none

/-- Commands joined by `|`. -/
def pipes : Nat → Reader (List Node)
  | 0, _ => none
  | n + 1, ts => do
    let (first, rest) ← command n ts
    match rest with
    | .operator s _ _ :: after =>
      if s = "|" ∨ s = "|&" then
        let (more, after) ← pipes n (skipNewlines after)
        return (first :: more, after)
      else return ([first], rest)
    | _ => return ([first], rest)

/-- A command, a pipeline, or either with `!` or `time` in front. -/
def pipeline : Nat → Reader Node
  | 0, _ => none
  | n + 1, ts =>
    let marked (rest : List Token) : Option (Node × List Token) := do
      let (node, rest) ← pipeline n rest
      return ({ node with kind := .pipeline, words := [] }, rest)
    match ts with
    | .word w :: rest =>
      if w.text = ['!'] ∨ w.text = "time".toList then marked rest
      else do
        let (nodes, rest) ← pipes n ts
        return (← joined nodes, rest)
    | _ => do
      let (nodes, rest) ← pipes n ts
      return (← joined nodes, rest)

/-- The commands of the body of a compound command, up to the token that cannot continue them. -/
def body : Nat → Reader Node
  | 0, _ => none
  | n + 1, ts => do
    let (nodes, rest) ← items n true (skipNewlines ts)
    return (← listOf none nodes, rest)

/-- Commands joined by operators. Line ends separate them only where `lines` are allowed. -/
def items : Nat → Bool → Reader (List Node)
  | 0, _, _ => none
  | n + 1, lines, ts => do
    let (node, rest) ← pipeline n ts
    match rest with
    | .operator s _ _ :: after =>
      if s = "&&" ∨ s = "||" then
        let (more, after) ← items n lines (skipNewlines after)
        return (node :: more, after)
      else if s = ";" ∨ s = "&" then
        let after := if lines then skipNewlines after else after
        if mayBegin after then
          let (more, after) ← items n lines after
          return (node :: more, after)
        else if lines then return ([node], after)
        else return ([node], rest)
      else return ([node], rest)
    | .newline :: after =>
      if lines then
        let after := skipNewlines after
        if mayBegin after then
          let (more, after) ← items n lines after
          return (node :: more, after)
        else return ([node], after)
      else return ([node], rest)
    | _ => return ([node], rest)

/-- Several commands joined by `|` are a pipeline. -/
def joined : List Node → Option Node
  | [] => none
  | [node] => some node
  | nodes =>
    nodes.getLast?.map fun last => ⟨.pipeline, last.stop, [], nodes.flatMap Node.expanded⟩

end

/-- A bound for the steps of reading tokens: no token needs more than a few levels. -/
def stepBound (ts : List Token) : Nat := 16 * ts.length + 16

/-- The commands of one line. The result is `none` if the line is empty, and there is none at all
if the line is no command. -/
def readUnit (ts : List Token) : Option (Option Node) :=
  match ts with
  | [] => some none
  | .newline :: _ => some none
  | .finish :: _ => some none
  | _ => do
    let (nodes, rest) ← items (stepBound ts) false ts
    let (trailing, rest) :=
      match rest with
      | .operator s _ stop :: after =>
        if s = ";" ∨ s = "&" then (some stop, after) else (none, rest)
      | _ => (none, rest)
    match rest with
    | .newline :: _ => return some (← listOf trailing nodes)
    | .finish :: _ => return some (← listOf trailing nodes)
    | _ => none

/-- Whether a text is a sequence of commands, such as a substitution may hold. -/
def isCommandText (s : List Char) : Bool :=
  let ts := tokens 0 s
  match body (stepBound ts) ts with
  | some (_, rest) => rest = [.finish]
  | none => false

end ShellWord.ShellLine
