/-!
# Line ends

Files are written with different line ends: a line feed, a carriage return, or both. Reading them
as text turns each into a line feed.
-/

namespace ShellWord

/-- The text with every line end as a line feed. -/
def unifyNewlines : List Char → List Char
  | '\r' :: '\n' :: rest => '\n' :: unifyNewlines rest
  | '\r' :: rest => '\n' :: unifyNewlines rest
  | c :: rest => c :: unifyNewlines rest
  | [] => []

end ShellWord
