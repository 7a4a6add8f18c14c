import ShellWord.StyleCheck.Expression

/-!
# Patterns

The patterns of `match` statements, as nodes. The names that a pattern binds or looks up call
nothing and import nothing, so they are read for their form only. Strings are the one kind of
expression in a pattern that may hold calls, in their replacement fields.
-/

namespace ShellWord.StyleCheck

open ShellWord.StyleCheck.Parser

/-- A name that a pattern binds. The underscore binds nothing. -/
def capture : Parser Unit := do
  if (← identifier) = "_" then failure else return ()

/-- Takes a number if it is next and if it is imaginary or not, as asked for. -/
def optionalNumber (imaginary : Bool) : Parser Bool := do
  match ← peek? with
  | some (.number n) =>
    if decide (n = .imaginary) = imaginary then skip *> return true else return false
  | _ => return false

/-- A number, perhaps negative, or the sum of a real and an imaginary number. -/
def patternNumber : Parser Node := do
  let line ← line
  let _ ← optional (mark "-")
  if ← optionalNumber true then return plainNode line []
  else if ← optionalNumber false then
    if ← nextMark ["+", "-"] then
      skip
      if ← optionalNumber true then return plainNode line [] else failure
    else return plainNode line []
  else failure

/-- A name with attributes: whether it has any. -/
def dottedPattern : Parser Bool := do
  let _ ← identifier
  let attributes ← many do
    if ← optional (mark ".") then return some (← identifier) else return none
  return !attributes.isEmpty

/-- A constant that a dictionary is looked up by, or that a value is compared with. -/
def patternConstant (r : Rules) : Parser Node := do
  let line ← line
  match ← peek? with
  | some (.string _) => strings r
  | some (.name s) =>
    if singletons.contains s then skip *> return .mk line (.constant .singleton) [] else failure
  | _ => patternNumber

def elementPattern (r : Rules) : Parser Node := do
  let line ← line
  if ← optional (mark "*") then
    let _ ← identifier
    return plainNode line []
  else r.pattern

/-- The patterns between square brackets, and the closing one. -/
def listPattern (r : Rules) (line : Nat) : Parser Node := do
  if ← optional (mark "]") then return plainNode line []
  else
    let first ← elementPattern r
    let others ← moreElements "]" (elementPattern r)
    expect (mark "]")
    return plainNode line (first :: others)

/-- The patterns between parentheses, and the closing one. A pattern by itself makes a sequence
only with a comma, and a starred one has to. -/
def tuplePattern (r : Rules) (line : Nat) : Parser Node := do
  if ← optional (mark ")") then return plainNode line []
  else
    let star ← next (mark "*")
    let first ← elementPattern r
    let comma ← next (mark ",")
    if star && !comma then failure
    else
      let others ← moreElements ")" (elementPattern r)
      expect (mark ")")
      return if comma then plainNode line (first :: others) else first

/-- One entry of the pattern of a dictionary: its key and the pattern of its value, or `none` for
what takes all that remains. -/
def entryPattern (r : Rules) : Parser (Option (Node × Node)) := do
  if ← optional (mark "**") then
    capture
    return none
  else
    let line ← line
    let key ← patternConstant r <|> do
      if ← dottedPattern then return plainNode line [] else failure
    expect (mark ":")
    return some (key, ← r.pattern)

/-- The pattern of a dictionary after its opening brace. Only the last entry can take all that
remains. -/
def dictPattern (r : Rules) (line : Nat) : Parser Node := do
  if ← optional (mark "\x7d") then return plainNode line []
  else
    let first ← entryPattern r
    let others ← moreElements "\x7d" (entryPattern r)
    expect (mark "\x7d")
    if (first :: others).dropLast.any Option.isNone then failure
    else
      let entries := (first :: others).filterMap id
      return plainNode line (entries.map Prod.fst ++ entries.map Prod.snd)

/-- One argument of the pattern of a class: whether it is named, and its pattern. -/
def argumentPattern (r : Rules) : Parser (Bool × Node) := do
  match (← get) with
  | ⟨_, .name s⟩ :: ⟨_, .mark "="⟩ :: rest =>
    if keywords.contains s then failure
    else
      set rest
      return (true, ← r.pattern)
  | _ => do return (false, ← r.pattern)

/-- The pattern of a class after its opening parenthesis. Named arguments come last. -/
def classPattern (r : Rules) (line : Nat) : Parser Node := do
  let className := plainNode line []
  if ← optional (mark ")") then return plainNode line [className]
  else
    let first ← argumentPattern r
    let others ← moreElements ")" (argumentPattern r)
    expect (mark ")")
    let arguments := first :: others
    if (arguments.dropWhile fun a => !a.1).any fun a => !a.1 then failure
    else return plainNode line (className :: arguments.map Prod.snd)

/-- A pattern that is not put together with bars. -/
def closedPattern (r : Rules) : Parser Node := do
  let line ← line
  match ← peek? with
  | some (.mark m) =>
    if m = "(" then skip *> tuplePattern r line
    else if m = "[" then skip *> listPattern r line
    else if m = "\x7b" then skip *> dictPattern r line
    else return plainNode line [← patternNumber]
  | some (.name s) =>
    if singletons.contains s then skip *> return plainNode line []
    else
      let _ ← dottedPattern
      if ← optional (mark "(") then classPattern r line else return plainNode line []
  | _ => return plainNode line [← patternConstant r]

def pattern (r : Rules) : Parser Node := do
  let line ← line
  let first ← closedPattern r
  let others ← many do
    if ← optional (mark "|") then return some (← closedPattern r) else return none
  let node := if others.isEmpty then first else plainNode line (first :: others)
  if ← optionalWord "as" then
    capture
    return plainNode line [node]
  else return node

/-- The pattern of a case, which may be a sequence without brackets. -/
def casePattern (r : Rules) : Parser Node := do
  let line ← line
  let star ← next (mark "*")
  let first ← elementPattern r
  let comma ← next (mark ",")
  if star && !comma then failure
  else
    let others ← many do
      if ← optional (mark ",") then
        if (← next (mark ":")) || (← nextWord "if") then return none
        else return some (← elementPattern r)
      else return none
    return if comma then plainNode line (first :: others) else first

end ShellWord.StyleCheck
