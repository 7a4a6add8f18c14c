import ShellWord.StyleCheck.Text

/-!
# Expressions

Reading expressions from tokens. A construct that contains others of its own kind reads them
through `Rules`, the rules for one level of nesting less; every such step takes at least one
token, so as many levels as there are characters suffice.
-/

namespace ShellWord.StyleCheck

/-- Reads something from the beginning of a list of tokens, or fails. -/
abbrev Parser := StateT (List Token) Option

namespace Parser

/-- The next token, whatever it is. -/
def peek? : Parser (Option Symbol) := do return (← get).head?.map Token.symbol

/-- The line of the next token. -/
def line : Parser Nat := do return ((← get).head?.map Token.line).getD 0

/-- Whether the next token is this one. -/
def next (s : Symbol) : Parser Bool := do return (← peek?) = some s

def skip : Parser Unit := modify List.tail

/-- Takes this token if it is the next. -/
def optional (s : Symbol) : Parser Bool := do
  if ← next s then
    skip
    return true
  else return false

/-- Takes this token, which has to be the next. -/
def expect (s : Symbol) : Parser Unit := do
  if ← optional s then return () else failure

/-- Whether the next token is one of several marks. -/
def nextMark (marks : List String) : Parser Bool := do
  match ← peek? with
  | some (.mark m) => return marks.contains m
  | _ => return false

/-- Reads as many items as there are, at most a number of them. -/
def upTo {α : Type} (item : Parser (Option α)) : Nat → Parser (List α)
  | 0 => return []
  | n + 1 => do
    match ← item with
    | none => return []
    | some a => return a :: (← upTo item n)

/-- Reads as many items as there are. Each item takes at least one token. -/
def many {α : Type} (item : Parser (Option α)) : Parser (List α) := do
  upTo item ((← get).length + 1)

end Parser

open ShellWord.StyleCheck.Parser

def mark (s : String) : Symbol := .mark s

/-- A name that is no keyword. -/
def identifier : Parser String := do
  match ← peek? with
  | some (.name s) => if keywords.contains s then failure else skip *> return s
  | _ => failure

/-- A keyword, which has to be next. -/
def word (s : String) : Parser Unit := expect (.name s)

def optionalWord (s : String) : Parser Bool := optional (.name s)

/-- Takes one of several keywords if it is next. -/
def optionalWordOf (words : List String) : Parser Bool := do
  match ← peek? with
  | some (.name s) => if words.contains s then skip *> return true else return false
  | _ => return false

def nextWord (s : String) : Parser Bool := next (.name s)

/-- The rules of one level of nesting. -/
structure Rules where
  /-- An expression, with neither a star nor an assignment. -/
  expression : Parser Node
  /-- An expression with its signs. -/
  factor : Parser Node
  /-- An expression with its negations. -/
  inversion : Parser Node
  /-- What is assigned to in a loop, with its stars. -/
  target : Parser Node
  /-- A pattern to match. -/
  pattern : Parser Node
  /-- The statements of one line, or one compound statement. -/
  statement : Parser (List Node)

/-- The rules of no level at all. -/
def Rules.none : Rules := ⟨failure, failure, failure, failure, failure, failure⟩

/-- A node of no particular kind. -/
def plainNode (line : Nat) (parts : List Node) : Node := .mk line .other parts

/-! ## What can be assigned to -/

/-- Whether a node stands for a single place to assign to. -/
def isSingleTarget (n : Node) : Bool :=
  match n.kind with
  | .name => true
  | .attribute _ => true
  | .subscript => true
  | _ => false

mutual

/-- Whether a node can be assigned to. Stars and nested tuples and lists are allowed if `stars`
says so, and without stars otherwise. -/
def isTarget (stars : Bool) : Node → Bool
  | .mk _ .name _ => true
  | .mk _ (.attribute _) _ => true
  | .mk _ .subscript _ => true
  | .mk _ .tuple parts => areTargets stars parts
  | .mk _ .list parts => areTargets stars parts
  | .mk _ .starred parts => stars && areTargets stars parts
  | _ => false

def areTargets (stars : Bool) : List Node → Bool
  | [] => true
  | n :: rest => isTarget stars n && areTargets stars rest

end

/-! ## Operators -/

/-- Operands with operators between them, grouped from the left. -/
def leftGrouped (ops : List String) (operand : Parser Node) : Parser Node := do
  let line ← line
  let first ← operand
  let others ← many do
    if ← nextMark ops then
      skip
      return some (← operand)
    else return none
  return others.foldl (fun left right => plainNode line [left, right]) first

/-- Sums, products, shifts and bitwise operations. -/
def bitwiseOr (r : Rules) : Parser Node :=
  leftGrouped ["|"] (leftGrouped ["^"] (leftGrouped ["&"] (leftGrouped ["<<", ">>"]
    (leftGrouped ["+", "-"] (leftGrouped ["*", "/", "//", "%", "@"] r.factor)))))

/-- A comparison operator, if one is next. -/
def comparison? : Parser Bool := do
  if ← nextMark ["==", "!=", "<", ">", "<=", ">="] then skip *> return true
  else if ← optionalWord "in" then return true
  else if ← optionalWord "is" then
    let _ ← optionalWord "not"
    return true
  else
    match (← get) with
    | ⟨_, .name "not"⟩ :: ⟨_, .name "in"⟩ :: rest => set rest *> return true
    | _ => return false

def comparison (r : Rules) : Parser Node := do
  let line ← line
  let first ← bitwiseOr r
  let others ← many do
    if ← comparison? then return some (← bitwiseOr r) else return none
  return if others.isEmpty then first else plainNode line (first :: others)

def inversion (r : Rules) : Parser Node := do
  let line ← line
  if ← optionalWord "not" then return plainNode line [← r.inversion] else comparison r

/-- Operands with one keyword between them, all parts of one node. -/
def flatGrouped (keyword : String) (operand : Parser Node) : Parser Node := do
  let line ← line
  let first ← operand
  let others ← many do
    if ← optionalWord keyword then return some (← operand) else return none
  return if others.isEmpty then first else plainNode line (first :: others)

def disjunction (r : Rules) : Parser Node := flatGrouped "or" (flatGrouped "and" (inversion r))

/-! ## Expressions with stars and assignments -/

def starred (operand : Parser Node) : Parser Node := do
  let line ← line
  expect (mark "*")
  return .mk line .starred [← operand]

def namedExpression (r : Rules) : Parser Node := do
  match (← get) with
  | ⟨line, .name s⟩ :: ⟨_, .mark ":="⟩ :: rest =>
    if keywords.contains s then failure
    else
      set rest
      return plainNode line [.mk line .name [], ← r.expression]
  | _ => do
    let e ← r.expression
    if ← next (mark ":=") then failure else return e

/-- Whether an assignment within an expression is next. -/
def beginsAssignment : Parser Bool := do
  match (← get) with
  | ⟨_, .name _⟩ :: ⟨_, .mark ":="⟩ :: _ => return true
  | _ => return false

/-- An element of a tuple, list or set in brackets. -/
def bracketElement (r : Rules) : Parser Node := do
  if ← next (mark "*") then starred (bitwiseOr r) else namedExpression r

/-- An element of a tuple without brackets. -/
def openElement (r : Rules) : Parser Node := do
  if ← next (mark "*") then starred (bitwiseOr r) else r.expression

/-- Whether an expression cannot begin with the next token. -/
def atListEnd : Parser Bool := do
  match ← peek? with
  | some .newline => return true
  | some .finish => return true
  | some (.mark m) =>
    return [")", "]", "\x7d", "=", ":", ";", "+=", "-=", "*=", "/=", "//=", "%=", "@=", "&=", "|=",
      "^=", ">>=", "<<=", "**="].contains m
  | some (.name s) => return ["in", "for", "if", "else", "from", "as", "async"].contains s
  | _ => return false

/-- More elements, each after a comma, up to a closing mark, before which a comma may stand. The
mark is not taken. -/
def moreElements {α : Type} (close : String) (element : Parser α) : Parser (List α) := many do
  if ← optional (mark ",") then
    if ← next (mark close) then return none else return some (← element)
  else return none

/-- Elements separated by commas: the elements, and whether there was any comma. -/
def commaSeparated (element : Parser Node) : Parser (List Node × Bool) := do
  let first ← element
  if ← next (mark ",") then
    let others ← many do
      if ← optional (mark ",") then
        if ← atListEnd then return none else return some (← element)
      else return none
    return (first :: others, true)
  else return ([first], false)

/-- An expression, or a tuple without brackets. -/
def openExpressions (r : Rules) : Parser Node := do
  let line ← line
  let (elements, comma) ← commaSeparated (openElement r)
  match elements, comma with
  | [e], false => return e
  | _, _ => return .mk line .tuple elements

/-- What a generator yields, or the value that is sent to it. -/
def yieldExpression (r : Rules) : Parser Node := do
  let line ← line
  word "yield"
  if ← optionalWord "from" then return plainNode line [← r.expression]
  else if ← atListEnd then return plainNode line []
  else return plainNode line [← openExpressions r]

/-- What can stand on the right of an assignment. -/
def assigned (r : Rules) : Parser Node := do
  if ← nextWord "yield" then yieldExpression r else openExpressions r

/-! ## Comprehensions -/

def loopTarget (r : Rules) : Parser Node := do
  let line ← line
  let (elements, comma) ← commaSeparated r.target
  match elements, comma with
  | [e], false => return e
  | _, _ => return .mk line .tuple elements

/-- Whether a comprehension goes on with a loop. -/
def beginsLoop : Parser Bool := do
  match (← get) with
  | ⟨_, .name "for"⟩ :: _ => return true
  | ⟨_, .name "async"⟩ :: ⟨_, .name "for"⟩ :: _ => return true
  | _ => return false

/-- The loops of a comprehension, each with its conditions. -/
def comprehension (r : Rules) : Parser (List Node) := many do
  if ← beginsLoop then
    let line ← line
    let _ ← optionalWord "async"
    word "for"
    let target ← loopTarget r
    word "in"
    let source ← disjunction r
    let conditions ← many do
      if ← optionalWord "if" then return some (← disjunction r) else return none
    return some (plainNode line (target :: source :: conditions))
  else return none

/-! ## Brackets -/

/-- What stands between parentheses, and the closing one. -/
def parenthesized (r : Rules) (line : Nat) : Parser Node := do
  if ← optional (mark ")") then return .mk line .tuple []
  else if ← nextWord "yield" then
    let e ← yieldExpression r
    expect (mark ")")
    return e
  else
    let star ← next (mark "*")
    let first ← bracketElement r
    -- neither a generator nor a lone expression has a star
    if ← beginsLoop then
      if star then failure
      else
        let loops ← comprehension r
        expect (mark ")")
        return plainNode line (first :: loops)
    else if ← next (mark ",") then
      let others ← moreElements ")" (bracketElement r)
      expect (mark ")")
      return .mk line .tuple (first :: others)
    else if star then failure
    else
      expect (mark ")")
      return first

/-- What stands between square brackets, and the closing one. -/
def bracketed (r : Rules) (line : Nat) : Parser Node := do
  if ← optional (mark "]") then return .mk line .list []
  else
    let star ← next (mark "*")
    let first ← bracketElement r
    if ← beginsLoop then
      if star then failure
      else
        let loops ← comprehension r
        expect (mark "]")
        return plainNode line (first :: loops)
    else
      let others ← moreElements "]" (bracketElement r)
      expect (mark "]")
      return .mk line .list (first :: others)

/-- One entry of a dictionary: its key, unless it is spread out, and its value. -/
def dictEntry (r : Rules) : Parser (Option Node × Node) := do
  if ← optional (mark "**") then return (none, ← bitwiseOr r)
  else
    let key ← r.expression
    expect (mark ":")
    return (some key, ← r.expression)

/-- The rest of a dictionary after its first entry. -/
def dictFrom (r : Rules) (line : Nat) (first : Option Node × Node) : Parser Node := do
  if ← beginsLoop then
    match first with
    | (some key, value) =>
      let loops ← comprehension r
      expect (mark "\x7d")
      return plainNode line (key :: value :: loops)
    | (none, _) => failure
  else
    let others ← moreElements "\x7d" (dictEntry r)
    expect (mark "\x7d")
    let entries := first :: others
    return plainNode line (entries.filterMap Prod.fst ++ entries.map Prod.snd)

/-- The rest of a set after its first element. -/
def setFrom (r : Rules) (line : Nat) (star : Bool) (first : Node) : Parser Node := do
  if ← beginsLoop then
    if star then failure
    else
      let loops ← comprehension r
      expect (mark "\x7d")
      return plainNode line (first :: loops)
  else
    let others ← moreElements "\x7d" (bracketElement r)
    expect (mark "\x7d")
    return plainNode line (first :: others)

/-- What stands between braces, and the closing one. -/
def braced (r : Rules) (line : Nat) : Parser Node := do
  if ← optional (mark "\x7d") then return plainNode line []
  else if ← next (mark "**") then dictFrom r line (← dictEntry r)
  else
    let star ← next (mark "*")
    let assignment ← beginsAssignment
    let first ← bracketElement r
    -- only an expression by itself is a key
    if !star && !assignment && (← next (mark ":")) then
      skip
      dictFrom r line (some first, ← r.expression)
    else setFrom r line star first

/-! ## Strings -/

mutual

/-- The node of one replacement field of a string that begins on a line. The field holds what
could stand between parentheses. -/
def fieldNode (r : Rules) (line : Nat) : Field → Option Node
  | .mk lines expression format => do
    let tokens ← expressionTokens? (line + lines) expression
    let (value, rest) ← (parenthesized r line).run (tokens.drop 1)
    if rest.map Token.symbol = [.finish] then
      let inner ← fieldNodes r line format
      let parts := if inner.isEmpty then [value] else [value, plainNode line inner]
      return plainNode line parts
    else failure

/-- The nodes of several replacement fields. -/
def fieldNodes (r : Rules) (line : Nat) : List Field → Option (List Node)
  | [] => some []
  | f :: rest => do return (← fieldNode r line f) :: (← fieldNodes r line rest)

end

/-- Strings side by side are one string. It is a constant unless one of them has replacement
fields. -/
def strings (r : Rules) : Parser Node := do
  let start ← line
  let literals ← many do
    match (← get) with
    | ⟨line, .string s⟩ :: rest => set rest *> return some (line, s)
    | _ => return none
  let bytes := literals.map fun l => l.2.has 'b'
  -- byte strings and texts do not mix
  if bytes.contains true && bytes.contains false then failure
  else
    let contents ← liftM (literals.mapM fun l => l.2.content?)
    if literals.any fun l => l.2.has 'f' then
      let fields ← liftM (literals.mapM fun l => do fieldNodes r l.1 (← l.2.fields?))
      return plainNode start fields.flatten
    else if bytes.contains true then return .mk start (.constant .bytes) []
    else return .mk start (.constant (.text contents.flatten)) []

/-! ## Calls, attributes and subscripts -/

/-- What has been read of the arguments of a call. -/
structure CallArguments where
  positional : List Node := []
  keywords : List Node := []
  /-- A keyword argument has come. -/
  named : Bool := false
  /-- A dictionary of keyword arguments has come. -/
  spread : Bool := false

/-- One argument of a call. Positional arguments come before keyword arguments, and starred ones
before dictionaries of keyword arguments. -/
def callArgument (r : Rules) (done : CallArguments) : Parser CallArguments := do
  let line ← line
  match (← get) with
  | ⟨_, .mark "*"⟩ :: _ =>
    if done.spread then failure
    else return { done with positional := done.positional ++ [← starred r.expression] }
  | ⟨_, .mark "**"⟩ :: rest => do
    set rest
    let value ← r.expression
    return { done with keywords := done.keywords ++ [plainNode line [value]], spread := true }
  | ⟨_, .name s⟩ :: ⟨_, .mark "="⟩ :: rest =>
    if keywords.contains s then failure
    else do
      set rest
      let value ← r.expression
      return { done with keywords := done.keywords ++ [plainNode line [value]], named := true }
  | _ =>
    if done.named || done.spread then failure
    else return { done with positional := done.positional ++ [← namedExpression r] }

/-- Arguments up to a closing parenthesis, which is taken. -/
def callArgumentsFrom (r : Rules) : Nat → CallArguments → Parser CallArguments
  | 0, _ => failure
  | n + 1, done => do
    if ← optional (mark ")") then return done
    else
      let done ← callArgument r done
      if ← optional (mark ",") then callArgumentsFrom r n done
      else
        expect (mark ")")
        return done

/-- All arguments of a call, and the closing parenthesis. Where `generators` allows it, a
comprehension may be the only argument, without parentheses of its own. -/
def callArguments (r : Rules) (generators : Bool) : Parser CallArguments := do
  if ← optional (mark ")") then return {}
  else
    let done ← callArgument r {}
    if ← beginsLoop then
      match generators, done.positional with
      | true, [first] =>
        if first.kind = .starred then failure
        else
          let loops ← comprehension r
          expect (mark ")")
          return { positional := [plainNode first.line (first :: loops)] }
      | _, _ => failure
    else if ← optional (mark ",") then callArgumentsFrom r ((← get).length + 1) done
    else
      expect (mark ")")
      return done

/-- A bound of a slice, if it is given. -/
def sliceBound (r : Rules) : Parser (List Node) := do
  if ← nextMark [":", ",", "]"] then return [] else return [← r.expression]

/-- The rest of a slice after its lower bound. -/
def sliceFrom (r : Rules) (line : Nat) (lower : List Node) : Parser Node := do
  expect (mark ":")
  let upper ← sliceBound r
  let step ← if ← optional (mark ":") then sliceBound r else pure []
  return plainNode line (lower ++ upper ++ step)

/-- One element of a subscript: an index, a slice or a starred expression. -/
def subscriptElement (r : Rules) : Parser Node := do
  let line ← line
  if ← next (mark "*") then starred r.expression
  else if ← next (mark ":") then sliceFrom r line []
  else
    let assignment ← beginsAssignment
    let e ← namedExpression r
    if !assignment && (← next (mark ":")) then sliceFrom r line [e] else return e

/-- The inside of a subscript, and the closing bracket. -/
def subscript (r : Rules) : Parser Node := do
  let line ← line
  let star ← next (mark "*")
  let first ← subscriptElement r
  if ← next (mark ",") then
    let others ← moreElements "]" (subscriptElement r)
    expect (mark "]")
    return .mk line .tuple (first :: others)
  else
    expect (mark "]")
    return if star then .mk line .tuple [first] else first

/-- The constant that a number is. -/
def Numeral.constant : Numeral → Constant
  | integer n => .integer n
  | float => .number
  | imaginary => .number

/-- The keywords that are constants. -/
def singletons : List String := ["None", "True", "False"]

/-- An expression that is not put together with operators. -/
def atom (r : Rules) : Parser Node := do
  let line ← line
  match ← peek? with
  | some (.string _) => strings r
  | some (.number n) => skip *> return .mk line (.constant n.constant) []
  | some (.name s) =>
    if singletons.contains s then skip *> return .mk line (.constant .singleton) []
    else if keywords.contains s then failure
    else skip *> return .mk line .name []
  | some (.mark m) =>
    if m = "(" then skip *> parenthesized r line
    else if m = "[" then skip *> bracketed r line
    else if m = "\x7b" then skip *> braced r line
    else if m = "..." then skip *> return .mk line (.constant .singleton) []
    else failure
  | _ => failure

/-- What follows an expression: attributes, calls and subscripts. -/
def trailers (r : Rules) (line : Nat) : Nat → Node → Parser Node
  | 0, node => return node
  | n + 1, node => do
    if ← optional (mark ".") then
      let name ← identifier
      trailers r line n (.mk line (.attribute name) [node])
    else if ← optional (mark "(") then
      let args ← callArguments r true
      trailers r line n
        (.mk line (.call args.positional.length) (node :: args.positional ++ args.keywords))
    else if ← optional (mark "[") then
      let index ← subscript r
      trailers r line n (.mk line .subscript [node, index])
    else return node

/-- An expression with its attributes, calls and subscripts. -/
def primary (r : Rules) : Parser Node := do
  let line ← line
  let first ← atom r
  trailers r line ((← get).length + 1) first

/-- A power, whose base may be awaited. -/
def power (r : Rules) : Parser Node := do
  let line ← line
  let base ←
    if ← optionalWord "await" then do pure (plainNode line [← primary r]) else primary r
  if ← optional (mark "**") then return plainNode line [base, ← r.factor] else return base

/-- A power with its signs. -/
def factor (r : Rules) : Parser Node := do
  let line ← line
  if ← nextMark ["+", "-", "~"] then skip *> return plainNode line [← r.factor] else power r

/-- What a loop assigns to, perhaps starred. -/
def target (r : Rules) : Parser Node := do
  let line ← line
  if ← optional (mark "*") then
    if ← next (mark "*") then failure else return .mk line .starred [← r.target]
  else
    let node ← primary r
    if isTarget true node then return node else failure

/-! ## Parameters -/

/-- What has been read of the parameters of a function. -/
structure Parameters where
  /-- Positional parameters, by their annotations. -/
  positional : List Node := []
  defaults : List Node := []
  rest : List Node := []
  keywordOnly : List Node := []
  keywordDefaults : List Node := []
  keywordRest : List Node := []
  /-- The star that begins the keyword parameters has come. -/
  starSeen : Bool := false
  /-- The star stood alone, and no keyword parameter has come. -/
  bare : Bool := false
  /-- The slash that ends the positional-only parameters has come. -/
  slashSeen : Bool := false
  /-- Nothing may follow. -/
  closed : Bool := false

/-- The parameters as a node, with its parts in the order of the fields. -/
def Parameters.node (line : Nat) (p : Parameters) : Node :=
  plainNode line
    (p.positional ++ p.rest ++ p.keywordOnly ++ p.keywordDefaults ++ p.keywordRest ++ p.defaults)

/-- The annotation of a parameter, if it has one. That of a parameter with a star may be starred
itself. -/
def annotation? (r : Rules) (star : Bool) : Parser (List Node) := do
  if ← optional (mark ":") then
    if star && (← next (mark "*")) then return [← starred (bitwiseOr r)]
    else return [← r.expression]
  else return []

/-- A parameter: its name and, where they are allowed, its annotation. -/
def parameter (r : Rules) (annotated star : Bool) : Parser Node := do
  let line ← line
  let _ ← identifier
  return plainNode line (← if annotated then annotation? r star else pure [])

/-- The default of a parameter, if it has one. -/
def default? (r : Rules) : Parser (List Node) := do
  if ← optional (mark "=") then return [← r.expression] else return []

def parameterEntry (r : Rules) (annotated : Bool) (p : Parameters) : Parser Parameters := do
  if p.closed then failure
  else if ← optional (mark "/") then
    if p.slashSeen || p.starSeen || p.positional.isEmpty then failure
    else return { p with slashSeen := true }
  else if ← optional (mark "**") then
    if p.bare then failure
    else return { p with keywordRest := [← parameter r annotated false], closed := true }
  else if ← optional (mark "*") then
    if p.starSeen then failure
    else if ← next (mark ",") then return { p with starSeen := true, bare := true }
    else return { p with rest := [← parameter r annotated true], starSeen := true }
  else
    let node ← parameter r annotated false
    let given ← default? r
    if p.starSeen then
      return { p with keywordOnly := p.keywordOnly ++ [node]
                      keywordDefaults := p.keywordDefaults ++ given, bare := false }
    else if given.isEmpty && !p.defaults.isEmpty then failure
    else
      return { p with positional := p.positional ++ [node], defaults := p.defaults ++ given }

/-- Parameters up to a mark that ends them, which is not taken. -/
def parametersFrom (r : Rules) (annotated : Bool) (stop : String) :
    Nat → Parameters → Parser Parameters
  | 0, _ => failure
  | n + 1, p => do
    if ← next (mark stop) then return p
    else
      let p ← parameterEntry r annotated p
      if ← optional (mark ",") then parametersFrom r annotated stop n p
      else if ← next (mark stop) then return p
      else failure

def parameters (r : Rules) (annotated : Bool) (stop : String) : Parser Node := do
  let line ← line
  let p ← parametersFrom r annotated stop ((← get).length + 1) {}
  if p.bare then failure else return p.node line

def lambda (r : Rules) : Parser Node := do
  let line ← line
  word "lambda"
  let params ← parameters r false ":"
  expect (mark ":")
  return plainNode line [params, ← r.expression]

/-- An expression: a function without a name, or a disjunction, perhaps with a condition. -/
def expression (r : Rules) : Parser Node := do
  let line ← line
  if ← nextWord "lambda" then lambda r
  else
    let value ← disjunction r
    if ← optionalWord "if" then
      let condition ← disjunction r
      word "else"
      return plainNode line [condition, value, ← r.expression]
    else return value

end ShellWord.StyleCheck
