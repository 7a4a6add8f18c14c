/-!
# Names of characters

Every character has a name. Those of the printable ASCII characters are told apart here; the names
of other characters are only known by the characters that names are made of.
-/

namespace ShellWord.CharacterName

def digitNames : List String :=
  ["ZERO", "ONE", "TWO", "THREE", "FOUR", "FIVE", "SIX", "SEVEN", "EIGHT", "NINE"]

/-- The names of the printable ASCII characters that are neither letters nor digits. -/
def punctuationNames : List (String × Char) :=
  [("SPACE", ' '), ("EXCLAMATION MARK", '!'), ("QUOTATION MARK", '\x22'), ("NUMBER SIGN", '#'),
   ("DOLLAR SIGN", '$'), ("PERCENT SIGN", '%'), ("AMPERSAND", '&'), ("APOSTROPHE", '\x27'),
   ("LEFT PARENTHESIS", '('), ("RIGHT PARENTHESIS", ')'), ("ASTERISK", '*'), ("PLUS SIGN", '+'),
   ("COMMA", ','), ("HYPHEN-MINUS", '-'), ("FULL STOP", '.'), ("SOLIDUS", '/'), ("COLON", ':'),
   ("SEMICOLON", ';'), ("LESS-THAN SIGN", '<'), ("EQUALS SIGN", '='), ("GREATER-THAN SIGN", '>'),
   ("QUESTION MARK", '?'), ("COMMERCIAL AT", '@'), ("LEFT SQUARE BRACKET", '['),
   ("REVERSE SOLIDUS", '\\'), ("RIGHT SQUARE BRACKET", ']'), ("CIRCUMFLEX ACCENT", '^'),
   ("LOW LINE", '_'), ("GRAVE ACCENT", '\x60'), ("LEFT CURLY BRACKET", '\x7b'),
   ("VERTICAL LINE", '|'), ("RIGHT CURLY BRACKET", '\x7d'), ("TILDE", '~')]

def asciiNames : List (String × Char) :=
  let letter (n : Nat) : List (String × Char) :=
    let capital := Char.ofNat (0x41 + n)
    [("LATIN CAPITAL LETTER " ++ String.singleton capital, capital),
      ("LATIN SMALL LETTER " ++ String.singleton capital, capital.toLower)]
  let digits := digitNames.zipIdx.map fun (name, n) => ("DIGIT " ++ name, Char.ofNat (0x30 + n))
  (List.range 26).flatMap letter ++ digits ++ punctuationNames

/-- The printable ASCII character of a name, which may be written in either case. -/
def ascii? (name : List Char) : Option Char :=
  asciiNames.lookup (String.ofList (name.map Char.toUpper))

/-- Whether a text could be the name of a character: names are made of letters, digits, spaces and
hyphens. -/
def isPossible (name : List Char) : Bool :=
  !name.isEmpty && name.all fun c => c.isAlphanum || c = ' ' || c = '-'

end ShellWord.CharacterName
