import ShellWord.StyleCheck.Pattern

/-!
# Statements

Reading statements from tokens. A line may hold several simple statements; a compound statement
holds blocks of other statements, which are read through the rules for one level of nesting
less.
-/

namespace ShellWord.StyleCheck

open ShellWord.StyleCheck.Parser

/-! ## Imports -/

/-- One item or more, with commas between them. -/
def separated {α : Type} (item : Parser α) : Parser (List α) := do
  let first ← item
  let others ← many do
    if ← optional (mark ",") then return some (← item) else return none
  return first :: others

def dottedName : Parser DottedName := do
  let first ← identifier
  let others ← many do
    if ← optional (mark ".") then return some (← identifier) else return none
  return first :: others

/-- The name under which something is imported, if it is given. -/
def importedAs : Parser Unit := do
  if ← optionalWord "as" then
    let _ ← identifier

def importedModule : Parser DottedName := do
  let name ← dottedName
  importedAs
  return name

def importedName : Parser Unit := do
  let _ ← identifier
  importedAs

def importNames : Parser Node := do
  let line ← line
  word "import"
  return .mk line (.importNames (← separated importedModule)) []

/-- The dots before a relative module. -/
def leadingDots : Parser Nat := do
  let counts ← many do
    if ← optional (mark ".") then return some 1
    else if ← optional (mark "...") then return some 3
    else return none
  return counts.foldl (· + ·) 0

/-- Imports from a module. Only a relative import can leave the module out. -/
def importFrom : Parser Node := do
  let line ← line
  word "from"
  let level ← leadingDots
  let module? ←
    if 0 < level && (← nextWord "import") then pure none else do pure (some (← dottedName))
  word "import"
  if ← optional (mark "*") then pure ()
  else if ← optional (mark "(") then
    importedName
    let _ ← moreElements ")" importedName
    expect (mark ")")
  else
    let _ ← separated importedName
  return .mk line (.importFrom level module?) []

/-! ## Simple statements -/

/-- The marks that assign the result of an operation. -/
def updates : List String :=
  ["+=", "-=", "*=", "/=", "//=", "%=", "@=", "&=", "|=", "^=", ">>=", "<<=", "**="]

/-- An expression as a statement, or an assignment. -/
def expressionStatement (r : Rules) : Parser Node := do
  let line ← line
  let first ← assigned r
  if ← next (mark "=") then
    let others ← many do
      if ← optional (mark "=") then return some (← assigned r) else return none
    let all := first :: others
    if all.dropLast.all (isTarget true) then return plainNode line all else failure
  else if ← nextMark updates then
    if isSingleTarget first then
      skip
      return plainNode line [first, ← assigned r]
    else failure
  else if ← optional (mark ":") then
    if isSingleTarget first then
      let annotation ← r.expression
      let value ← if ← optional (mark "=") then do pure [← assigned r] else pure []
      return plainNode line (first :: annotation :: value)
    else failure
  else return plainNode line [first]

def deleted (r : Rules) : Parser (List Node) := do
  let (targets, _) ← commaSeparated (primary r)
  if targets.all (isTarget false) then return targets else failure

/-- Whether a simple statement ends here. -/
def atStatementEnd : Parser Bool := do return (← next .newline) || (← next (mark ";"))

/-- The exception that is raised, and what caused it. -/
def raised (r : Rules) : Parser (List Node) := do
  if ← atStatementEnd then return []
  else
    let exception ← r.expression
    let cause ← if ← optionalWord "from" then do pure [← r.expression] else pure []
    return exception :: cause

/-- What is asserted, and the message otherwise. -/
def asserted (r : Rules) : Parser (List Node) := do
  let test ← r.expression
  let message ← if ← optional (mark ",") then do pure [← r.expression] else pure []
  return test :: message

def simpleStatement (r : Rules) : Parser Node := do
  let line ← line
  if ← nextWord "import" then importNames
  else if ← nextWord "from" then importFrom
  else if ← optionalWordOf ["pass", "break", "continue"] then return plainNode line []
  else if ← optionalWordOf ["global", "nonlocal"] then
    let _ ← separated identifier
    return plainNode line []
  else if ← optionalWord "return" then
    let value ← if ← atStatementEnd then pure [] else do pure [← openExpressions r]
    return plainNode line value
  else if ← optionalWord "raise" then return plainNode line (← raised r)
  else if ← optionalWord "assert" then return plainNode line (← asserted r)
  else if ← optionalWord "del" then return plainNode line (← deleted r)
  else expressionStatement r

/-- The simple statements of a line, and the end of the line. -/
def simpleStatements (r : Rules) : Parser (List Node) := do
  let first ← simpleStatement r
  let others ← many do
    if ← optional (mark ";") then
      if ← next .newline then return none else return some (← simpleStatement r)
    else return none
  expect .newline
  return first :: others

/-! ## Blocks -/

/-- The statements of a block: indented lines, or the rest of the line. -/
def block (r : Rules) : Parser (List Node) := do
  if ← optional .newline then
    expect .indent
    let statements ← many do
      if ← next .dedent then return none else return some (← r.statement)
    expect .dedent
    return statements.flatten
  else simpleStatements r

/-- A colon and a block. -/
def colonBlock (r : Rules) : Parser (List Node) := expect (mark ":") *> block r

/-- The block of a keyword, if it comes. -/
def optionalBlock (r : Rules) (keyword : String) : Parser (List Node) := do
  if ← optionalWord keyword then colonBlock r else return []

/-! ## Compound statements -/

/-- A conditional statement. Each further condition is a statement within the alternative of the
condition before it. The number bounds the conditions. -/
def conditional (r : Rules) : Nat → Parser Node
  | 0 => failure
  | n + 1 => do
    let line ← line
    skip
    let test ← namedExpression r
    let body ← colonBlock r
    let otherwise ←
      if ← nextWord "elif" then do pure [← conditional r n] else optionalBlock r "else"
    return plainNode line (test :: body ++ otherwise)

def whileLoop (r : Rules) : Parser Node := do
  let line ← line
  word "while"
  let test ← namedExpression r
  let body ← colonBlock r
  return plainNode line (test :: body ++ (← optionalBlock r "else"))

def forLoop (r : Rules) (line : Nat) : Parser Node := do
  word "for"
  let target ← loopTarget r
  word "in"
  let source ← openExpressions r
  let body ← colonBlock r
  return plainNode line (target :: source :: body ++ (← optionalBlock r "else"))

/-- A context to enter, and what it is assigned to. -/
def contextItem (r : Rules) : Parser Node := do
  let line ← line
  let context ← r.expression
  let assignedTo ← if ← optionalWord "as" then do pure [← target r] else pure []
  return plainNode line (context :: assignedTo)

/-- The contexts to enter in parentheses of their own. -/
def enclosedItems (r : Rules) : Parser (List Node) := do
  expect (mark "(")
  let first ← contextItem r
  let others ← moreElements ")" (contextItem r)
  expect (mark ")")
  if ← next (mark ":") then return first :: others else failure

def contextStatement (r : Rules) (line : Nat) : Parser Node := do
  word "with"
  let items ← enclosedItems r <|> separated (contextItem r)
  return plainNode line (items ++ (← colonBlock r))

/-- Whether the next tokens begin a handler, with a star or without one. -/
def beginsHandler (star : Bool) : Parser Bool := do
  match (← get) with
  | ⟨_, .name "except"⟩ :: ⟨_, .mark "*"⟩ :: _ => return star
  | ⟨_, .name "except"⟩ :: _ => return !star
  | _ => return false

def handler (r : Rules) (star : Bool) : Parser Node := do
  let line ← line
  word "except"
  if star then expect (mark "*")
  let caught ←
    if !star && (← next (mark ":")) then pure []
    else do
      let e ← r.expression
      importedAs
      pure [e]
  return plainNode line (caught ++ (← colonBlock r))

/-- A statement whose exceptions are handled. Its handlers all have a star or none has. -/
def tryStatement (r : Rules) : Parser Node := do
  let line ← line
  word "try"
  let body ← colonBlock r
  let star ← beginsHandler true
  let handlers ← many do
    if ← beginsHandler star then return some (← handler r star) else return none
  let otherwise ← if handlers.isEmpty then pure [] else optionalBlock r "else"
  let final ← optionalBlock r "finally"
  if handlers.isEmpty && final.isEmpty then failure
  else return plainNode line (body ++ handlers ++ otherwise ++ final)

def matchCase (r : Rules) : Parser Node := do
  let line ← line
  word "case"
  let pattern ← casePattern r
  let guards ← if ← optionalWord "if" then do pure [← namedExpression r] else pure []
  return plainNode line (pattern :: guards ++ (← colonBlock r))

/-- What is matched: an expression, or a tuple without brackets. -/
def matchSubject (r : Rules) : Parser Node := do
  let line ← line
  let star ← next (mark "*")
  let (elements, comma) ← commaSeparated (bracketElement r)
  match elements, comma with
  | [e], false => if star then failure else return e
  | _, _ => return .mk line .tuple elements

def matchStatement (r : Rules) : Parser Node := do
  let line ← line
  word "match"
  let subject ← matchSubject r
  expect (mark ":")
  expect .newline
  expect .indent
  let first ← matchCase r
  let others ← many do
    if ← next .dedent then return none else return some (← matchCase r)
  expect .dedent
  return plainNode line (subject :: first :: others)

def function (r : Rules) (line : Nat) (decorators : List Node) : Parser Node := do
  word "def"
  let _ ← identifier
  expect (mark "(")
  let params ← parameters r true ")"
  expect (mark ")")
  let result ← if ← optional (mark "->") then do pure [← r.expression] else pure []
  return plainNode line (params :: (← colonBlock r) ++ decorators ++ result)

def classStatement (r : Rules) (line : Nat) (decorators : List Node) : Parser Node := do
  word "class"
  let _ ← identifier
  let args ← if ← optional (mark "(") then callArguments r false else pure {}
  return plainNode line (args.positional ++ args.keywords ++ (← colonBlock r) ++ decorators)

/-- A function or a class, after the expressions that decorate it. -/
def definition (r : Rules) (decorators : List Node) : Parser Node := do
  let line ← line
  if ← nextWord "class" then classStatement r line decorators
  else
    let _ ← optionalWord "async"
    function r line decorators

def decorated (r : Rules) : Parser Node := do
  let decorators ← many do
    if ← optional (mark "@") then
      let e ← namedExpression r
      expect .newline
      return some e
    else return none
  definition r decorators

def asyncStatement (r : Rules) : Parser Node := do
  let line ← line
  word "async"
  if ← nextWord "for" then forLoop r line
  else if ← nextWord "with" then contextStatement r line
  else function r line []

/-- The statements of one line, or one compound statement. -/
def statement (r : Rules) : Parser (List Node) := do
  let line ← line
  match ← peek? with
  | some (.mark "@") => return [← decorated r]
  | some (.name "if") => return [← conditional r ((← get).length + 1)]
  | some (.name "while") => return [← whileLoop r]
  | some (.name "for") => return [← forLoop r line]
  | some (.name "with") => return [← contextStatement r line]
  | some (.name "try") => return [← tryStatement r]
  | some (.name "def") => return [← function r line []]
  | some (.name "class") => return [← classStatement r line []]
  | some (.name "async") => return [← asyncStatement r]
  | some (.name "match") => (do return [← matchStatement r]) <|> simpleStatements r
  | _ => simpleStatements r

end ShellWord.StyleCheck
