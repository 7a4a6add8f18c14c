import ShellWord.StyleCheck.Token
import ShellWord.Text.CharacterName
import ShellWord.StyleCheck.Tree

/-!
# The content of string literals

What a string says once its escapes are decoded. Strings with replacement fields are cut into
their fields, whose expressions are read later.
-/

namespace ShellWord.StyleCheck

def isHexDigit (c : Char) : Bool := c.isDigit || ('a' ≤ c && c ≤ 'f') || ('A' ≤ c && c ≤ 'F')

/-- The character of a number. Numbers of surrogates stand for the replacement character. -/
def charOf (n : Nat) : Char := if n.isValidChar then Char.ofNat n else '\ufffd'

/-- The character of an escape with exactly `count` hexadecimal digits. -/
def hexEscape? (count : Nat) (s : List Char) : Option Char :=
  let digits := s.take count
  let n := digits.foldl (fun n c => n * 16 + hexValue c) 0
  if digits.length = count ∧ digits.all isHexDigit ∧ n < 0x110000 then some (charOf n) else none

/-- The character of a one-letter escape. -/
def letterEscape? (c : Char) : Option Char :=
  if c = '\\' ∨ c = '\x27' ∨ c = '\x22' then some c
  else if c = 'a' then some '\x07'
  else if c = 'b' then some '\x08'
  else if c = 'f' then some '\x0c'
  else if c = 'n' then some '\n'
  else if c = 'r' then some '\r'
  else if c = 't' then some '\t'
  else if c = 'v' then some '\x0b'
  else none

def isOctalDigit (c : Char) : Bool := '0' ≤ c && c ≤ '7'

/-- What follows a backslash: the characters it stands for, and how many characters it takes. An
unknown escape stands for itself. Characters beyond ASCII that are given by name are not told
apart. -/
def escape? (bytes : Bool) : List Char → Option (List Char × Nat)
  | [] => none
  | c :: rest =>
    if c = '\n' then some ([], 1)
    else if isOctalDigit c then
      let digits := ((c :: rest).take 3).takeWhile isOctalDigit
      some ([charOf (digits.foldl (fun n d => n * 8 + hexValue d) 0)], digits.length)
    else if c = 'x' then (hexEscape? 2 rest).map fun d => ([d], 3)
    else if c = 'u' ∧ !bytes then (hexEscape? 4 rest).map fun d => ([d], 5)
    else if c = 'U' ∧ !bytes then (hexEscape? 8 rest).map fun d => ([d], 9)
    else if c = 'N' ∧ !bytes then
      match rest with
      | '\x7b' :: name =>
        let inside := name.takeWhile (· ≠ '\x7d')
        if inside.length = name.length ∨ !CharacterName.isPossible inside then none
        else some ([(CharacterName.ascii? inside).getD '\ufffd'], inside.length + 3)
      | _ => none
    else
      match letterEscape? c with
      | some d => some ([d], 1)
      | none => some (['\\', c], 1)

/-- Decodes the escapes of a text. The number bounds the characters to read. -/
def decodeEscapes (bytes : Bool) : Nat → List Char → Option (List Char)
  | 0, _ => some []
  | _ + 1, [] => some []
  | n + 1, '\\' :: rest => do
    let (cs, count) ← escape? bytes rest
    return cs ++ (← decodeEscapes bytes n (rest.drop count))
  | n + 1, c :: rest => do return c :: (← decodeEscapes bytes n rest)

/-- What a string without replacement fields says; a string of bytes holds ASCII only. -/
def StringLiteral.content? (s : StringLiteral) : Option (List Char) :=
  let bytes := s.has 'b'
  if bytes && s.body.any fun c => 0x80 ≤ c.toNat then none
  else if s.has 'r' then some s.body
  else decodeEscapes bytes s.body.length s.body

/-! ## Replacement fields -/

/-- What the scan of a replacement field's expression remembers. -/
structure FieldScan where
  /-- The brackets that are open, by what closes them. -/
  brackets : List Char := []
  /-- The quote of the string that is open, and whether it has three quotes. -/
  quote : Option (Char × Bool) := none
  deriving Repr

/-- The character that closes an opening bracket. -/
def closingChar? (c : Char) : Option Char :=
  if c = '(' then some ')'
  else if c = '[' then some ']'
  else if c = '\x7b' then some '\x7d'
  else none

/-- Skips a character of an expression and what follows without a look at it. -/
def expressionWith (cs : List Char) (r : Option (List Char × List Char)) :
    Option (List Char × List Char) :=
  r.map fun (front, rest) => (cs ++ front, rest)

/-- The expression of a replacement field, and the rest of the text, which begins with the
character that ends the expression. The number bounds the steps. -/
def fieldExpression : Nat → FieldScan → List Char → Option (List Char × List Char)
  | 0, _, _ => none
  | _ + 1, _, [] => none
  | n + 1, scan, c :: rest =>
    let go (scan : FieldScan) := expressionWith [c] (fieldExpression n scan rest)
    if c = '\\' then none
    else
      match scan.quote with
      | some (quote, long) =>
        if c ≠ quote then go scan
        else if !long then go { scan with quote := none }
        else if rest.take 2 = [quote, quote] then
          expressionWith [c, c, c] (fieldExpression n { scan with quote := none } (rest.drop 2))
        else go scan
      | none =>
        if c = '\x27' ∨ c = '\x22' then
          if rest.take 2 = [c, c] then
            expressionWith [c, c, c]
              (fieldExpression n { scan with quote := some (c, true) } (rest.drop 2))
          else go { scan with quote := some (c, false) }
        else if c = '#' then none
        else
          match closingChar? c with
          | some close => go { scan with brackets := close :: scan.brackets }
          | none =>
            if scan.brackets.isEmpty ∧ "!:\x7d=<>".toList.contains c then
              if rest.head? = some '=' ∧ "!=<>".toList.contains c then
                expressionWith [c, '='] (fieldExpression n scan (rest.drop 1))
              else if c = '<' ∨ c = '>' then go scan
              else some ([], c :: rest)
            else if c = ')' ∨ c = ']' ∨ c = '\x7d' then
              match scan.brackets with
              | top :: below => if top = c then go { scan with brackets := below } else none
              | [] => none
            else go scan

/-- A replacement field: its expression, the line ends before the expression, and the fields of
its format. -/
inductive Field
  | mk (lines : Nat) (expression : List Char) (format : List Field)

/-- The blanks that may surround the parts of a field. -/
def isFieldBlank (c : Char) : Bool := c = ' ' || '\t' ≤ c && c ≤ '\r'

/-- Skips the sign that shows the expression itself, and a conversion. -/
def skipConversion (s : List Char) : Option (List Char) :=
  let s := match s with
    | '=' :: rest => rest.dropWhile isFieldBlank
    | _ => s
  match s with
  | '!' :: c :: rest => if c = 's' ∨ c = 'r' ∨ c = 'a' then some rest else none
  | '!' :: [] => none
  | _ => some s

mutual

/-- The fields of a text, up to its end or, inside a format, up to the brace that ends it. `depth`
is how many fields surround the text, `lines` how many line ends stand before it. -/
def fieldsFrom (raw : Bool) : Nat → Nat → Nat → List Char → Option (List Field × List Char)
  | 0, _, _, _ => none
  | _ + 1, depth, _, [] => if depth = 0 then some ([], []) else none
  | n + 1, depth, lines, c :: rest =>
    if c = '\\' ∧ !raw then
      match rest with
      | 'N' :: '\x7b' :: more =>
        fieldsFrom raw n depth lines ((more.dropWhile (· ≠ '\x7d')).drop 1)
      | '\x7b' :: _ => fieldsFrom raw n depth lines rest
      | '\x7d' :: _ => fieldsFrom raw n depth lines rest
      | d :: more => fieldsFrom raw n depth (lines + countLines [d]) more
      | [] => none
    else if c = '\x7b' then
      if depth = 0 ∧ rest.head? = some '\x7b' then fieldsFrom raw n depth lines (rest.drop 1)
      else do
        let (field, after) ← field? raw n depth lines rest
        let passed := countLines (rest.take (rest.length - after.length))
        let (more, after) ← fieldsFrom raw n depth (lines + passed) after
        return (field :: more, after)
    else if c = '\x7d' then
      if 0 < depth then some ([], c :: rest)
      else if rest.head? = some '\x7d' then fieldsFrom raw n depth lines (rest.drop 1)
      else none
    else fieldsFrom raw n depth (lines + countLines [c]) rest

/-- One field, from after its opening brace through its closing brace. -/
def field? (raw : Bool) : Nat → Nat → Nat → List Char → Option (Field × List Char)
  | 0, _, _, _ => none
  | n + 1, depth, lines, s =>
    if 2 ≤ depth then none
    else do
      let (expression, rest) ← fieldExpression (s.length + 1) {} s
      if expression.all isFieldBlank then none
      else
        let rest ← skipConversion rest
        match rest with
        | ':' :: format => do
          let passed := countLines (s.take (s.length - format.length))
          let (inner, after) ← fieldsFrom raw n (depth + 1) (lines + passed) format
          match after with
          | '\x7d' :: after => return (.mk lines expression inner, after)
          | _ => none
        | '\x7d' :: after => return (.mk lines expression [], after)
        | _ => none

end

/-- The replacement fields of a string that has them. -/
def StringLiteral.fields? (s : StringLiteral) : Option (List Field) :=
  if s.has 'f' then (fieldsFrom (s.has 'r') (2 * s.body.length + 2) 0 0 s.body).map Prod.fst
  else some []

end ShellWord.StyleCheck
