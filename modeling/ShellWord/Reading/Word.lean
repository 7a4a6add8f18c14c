import ShellWord.Reading.Construct

/-!
# Words as a shell reads them

Outside quotes a shell reads plain bytes as themselves, a backslash as a cover for the next byte,
and the quoting constructs that it knows. `word?` reads a text as one word and refuses every other
unquoted byte; `arguments?` reads it as words with blanks between them. Both carry the word that has
been read so far, so that what they make of a text can be compared piece by piece.
-/

namespace ShellWord.Reading

/-- The constructs that a shell knows besides `'...'` and the backslash. -/
structure Constructs where
  /-- It knows `$'...'`. -/
  escapes : Bool
  /-- It knows `"$(printf '...')"`. -/
  printf : Bool
  deriving DecidableEq, Repr

/-- The constructs that the shell of a dialect is relied on to know. -/
def Constructs.ofDialect : Dialect → Constructs
  | .bash => ⟨true, false⟩
  | .sh => ⟨false, true⟩

def Constructs.all : Constructs := ⟨true, true⟩

/-- Whether a byte stands for itself outside quotes: letters, digits and `-_./,:@%+=` do. -/
def isPlain (b : UInt8) : Bool :=
  let c := Char.ofNat b.toNat
  c.isAlphanum || ['-', '_', '.', '/', ',', ':', '@', '%', '+', '='].contains c

/-- One step outside quotes: the data that the beginning of a text stands for, and the text behind
it. -/
def piece? (k : Constructs) : Bytes → Option (Bytes × Bytes)
  | [] => none
  | b :: rest =>
    if b = 0x27 then verbatim? rest
    else if b = 0x5C then
      match rest with
      | [] => none
      | c :: after => if c = 0x0A then none else some ([c], after)
    else if b = 0x24 ∧ k.escapes ∧ rest.head? = some 0x27 then escapedFrom 0 rest.tail
    else if b = 0x22 ∧ k.printf then printf? rest
    else if isPlain b then some ([b], rest)
    else none

/-- A step takes at least one byte. -/
theorem length_lt_of_piece? {k : Constructs} {text data after : Bytes}
    (h : piece? k text = some (data, after)) : after.length < text.length := by
  cases text with
  | nil => simp [piece?] at h
  | cons b rest =>
    simp only [piece?] at h
    split at h
    · have := length_lt_of_verbatim? h
      simp only [List.length_cons]
      omega
    split at h
    · cases rest with
      | nil => simp at h
      | cons c more =>
        simp only at h
        split at h
        · simp at h
        · simp only [Option.some.injEq, Prod.mk.injEq] at h
          simp only [← h.2, List.length_cons]
          omega
    split at h
    · have := length_lt_of_escapedFrom h
      simp only [List.length_tail, List.length_cons] at this ⊢
      omega
    split at h
    · have := length_le_of_printf? h
      simp only [List.length_cons]
      omega
    split at h
    · simp only [Option.some.injEq, Prod.mk.injEq] at h
      simp [← h.2]
    · simp at h

/-- Reads a text as the rest of a word: the word in the end, if any has begun. -/
def word? (k : Constructs) (w : Option Bytes) (text : Bytes) : Option (Option Bytes) :=
  if text.isEmpty then some w
  else
    match _h : piece? k text with
    | none => none
    | some (data, after) => word? k (some (w.getD [] ++ data)) after
termination_by text.length
decreasing_by exact length_lt_of_piece? _h

def isSeparator (b : UInt8) : Bool := b = 0x20 || b = 0x09

/-- Reads a text as the rest of a word and more words. -/
def argumentsFrom (k : Constructs) (w : Option Bytes) (text : Bytes) : Option (List Bytes) :=
  if text.isEmpty then some w.toList
  else if text.head?.any isSeparator then (argumentsFrom k none text.tail).map (w.toList ++ ·)
  else
    match _h : piece? k text with
    | none => none
    | some (data, after) => argumentsFrom k (some (w.getD [] ++ data)) after
termination_by text.length
decreasing_by
  · cases text <;> simp_all
  · exact length_lt_of_piece? _h

/-- Reads a text as arguments. -/
def arguments? (k : Constructs) (text : Bytes) : Option (List Bytes) := argumentsFrom k none text

end ShellWord.Reading
