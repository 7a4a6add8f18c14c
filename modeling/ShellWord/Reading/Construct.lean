import ShellWord.Quote.Dialect

/-!
# What quoting constructs stand for

How a shell reads the constructs that words are quoted with. Each reader takes a text whose
beginning is the inside of a construct; a number counts the bytes that an escape has taken
already. The readers are strict: what no shell is sure to read in one way is refused.
-/

namespace ShellWord.Reading

/-! ## Digits -/

def isOctalDigit (b : UInt8) : Bool := 0x30 ≤ b && b ≤ 0x37

def isHexDigit (b : UInt8) : Bool :=
  (0x30 ≤ b && b ≤ 0x39) || (0x41 ≤ b && b ≤ 0x46) || (0x61 ≤ b && b ≤ 0x66)

def digitValue (b : UInt8) : Nat :=
  if b ≤ 0x39 then b.toNat - 0x30 else if b ≤ 0x46 then b.toNat - 0x37 else b.toNat - 0x57

/-- The byte that digits of a base stand for. There has to be a digit, the value has to fit into a
byte, and no escape stands for the zero byte. -/
def byteOfDigits? (base : Nat) (digits : Bytes) : Option UInt8 :=
  let n := digits.foldl (fun n b => n * base + digitValue b) 0
  if digits.isEmpty ∨ n = 0 ∨ 0x100 ≤ n then none else some (UInt8.ofNat n)

/-- An octal escape: its byte, and how many digits it takes, at most three. -/
def octalEscape? (text : Bytes) : Option (UInt8 × Nat) :=
  let digits := (text.take 3).takeWhile isOctalDigit
  (byteOfDigits? 8 digits).map fun b => (b, digits.length)

/-- A hexadecimal escape: its byte, and how many digits it takes, at most two. -/
def hexEscape? (text : Bytes) : Option (UInt8 × Nat) :=
  let digits := (text.take 2).takeWhile isHexDigit
  (byteOfDigits? 16 digits).map fun b => (b, digits.length)

/-! ## The inside of `$'...'` -/

/-- The letters that stand for one byte behind a backslash, each with that byte. -/
def letterEscapes : List (UInt8 × UInt8) :=
  [(0x61, 0x07), (0x62, 0x08), (0x65, 0x1B), (0x45, 0x1B), (0x66, 0x0C), (0x6E, 0x0A),
   (0x72, 0x0D), (0x74, 0x09), (0x76, 0x0B), (0x5C, 0x5C), (0x27, 0x27), (0x22, 0x22),
   (0x3F, 0x3F)]

/-- What stands behind a backslash: its byte, and how many bytes it takes. -/
def escape? : Bytes → Option (UInt8 × Nat)
  | [] => none
  | b :: rest =>
    if b = 0x78 then (hexEscape? rest).map fun (c, n) => (c, n + 1)
    else if isOctalDigit b then octalEscape? (b :: rest)
    else (letterEscapes.lookup b).map fun c => (c, 1)

/-- Reads a text with escapes up to the first single quote that is not escaped: the data it stands
for, and the text behind the quote. -/
def escapedFrom : Nat → Bytes → Option (Bytes × Bytes)
  | _, [] => none
  | n + 1, _ :: rest => escapedFrom n rest
  | 0, b :: rest =>
    if b = 0x27 then some ([], rest)
    else if b = 0x5C then do
      let (c, n) ← escape? rest
      let (data, after) ← escapedFrom n rest
      return (c :: data, after)
    else do
      let (data, after) ← escapedFrom 0 rest
      return (b :: data, after)

/-- The text behind an escaped text is shorter. -/
theorem length_lt_of_escapedFrom {n : Nat} {text data after : Bytes}
    (h : escapedFrom n text = some (data, after)) : after.length < text.length := by
  induction text generalizing n data after with
  | nil => simp [escapedFrom] at h
  | cons b rest ih =>
    cases n with
    | succ n => exact Nat.lt_succ_of_lt (ih h)
    | zero =>
      simp only [escapedFrom] at h
      split at h
      · cases h
        exact Nat.lt_succ_self _
      split at h
      · simp only [Option.bind_eq_bind, Option.bind_eq_some_iff] at h
        obtain ⟨⟨c, n⟩, _, ⟨data', after'⟩, hr, hd⟩ := h
        cases hd
        exact Nat.lt_succ_of_lt (ih hr)
      · simp only [Option.bind_eq_bind, Option.bind_eq_some_iff] at h
        obtain ⟨⟨data', after'⟩, hr, hd⟩ := h
        cases hd
        exact Nat.lt_succ_of_lt (ih hr)

/-! ## The inside of `'...'` -/

/-- Reads a verbatim text up to the first single quote: the text, and what is behind the quote. -/
def verbatim? : Bytes → Option (Bytes × Bytes)
  | [] => none
  | b :: rest =>
    if b = 0x27 then some ([], rest)
    else (verbatim? rest).map fun (data, after) => (b :: data, after)

/-- The text behind a verbatim text is shorter. -/
theorem length_lt_of_verbatim? {text data after : Bytes}
    (h : verbatim? text = some (data, after)) : after.length < text.length := by
  induction text generalizing data after with
  | nil => simp [verbatim?] at h
  | cons b rest ih =>
    simp only [verbatim?] at h
    split at h
    · cases h
      exact Nat.lt_succ_self _
    · obtain ⟨⟨data', after'⟩, hr, hd⟩ := Option.map_eq_some_iff.1 h
      cases hd
      exact Nat.lt_succ_of_lt (ih hr)

/-! ## The inside of `"$(printf '...')"` -/

/-- What the command `printf` prints for a format. Octal escapes are known; a percent sign and
other escapes are refused. -/
def printedFrom : Nat → Bytes → Option Bytes
  | 0, [] => some []
  | _ + 1, [] => none
  | n + 1, _ :: rest => printedFrom n rest
  | 0, b :: rest =>
    if b = 0x25 then none
    else if b = 0x5C then do
      let (c, n) ← octalEscape? rest
      return c :: (← printedFrom n rest)
    else do return b :: (← printedFrom 0 rest)

/-- The output of a command as a substitution inserts it: without the newlines at its end. -/
def substituted (output : Bytes) : Bytes := (output.reverse.dropWhile (· = 0x0A)).reverse

/-- What stands behind the double quote up to the format: `$(printf '`. -/
def printfOpening : Bytes := [0x24, 0x28, 0x70, 0x72, 0x69, 0x6E, 0x74, 0x66, 0x20, 0x27]

/-- What stands behind the format: `)"`. -/
def printfClosing : Bytes := [0x29, 0x22]

/-- Reads what follows a double quote, which has to be a substitution of `printf`: the data it
stands for, and the text behind it. -/
def printf? (text : Bytes) : Option (Bytes × Bytes) :=
  if printfOpening.isPrefixOf text then do
    let (format, after) ← verbatim? (text.drop printfOpening.length)
    let output ← printedFrom 0 format
    if printfClosing.isPrefixOf after then
      return (substituted output, after.drop printfClosing.length)
    else none
  else none

/-- The text behind a substitution of `printf` is no longer. -/
theorem length_le_of_printf? {text data after : Bytes}
    (h : printf? text = some (data, after)) : after.length ≤ text.length := by
  simp only [printf?] at h
  split at h
  · simp only [Option.bind_eq_bind, Option.bind_eq_some_iff] at h
    obtain ⟨⟨format, behind⟩, hf, output, _, ho⟩ := h
    have := length_lt_of_verbatim? hf
    split at ho
    · simp only [Option.pure_def, Option.some.injEq, Prod.mk.injEq] at ho
      rw [← ho.2]
      simp only [List.length_drop] at this ⊢
      omega
    · simp at ho
  · simp at h

end ShellWord.Reading
