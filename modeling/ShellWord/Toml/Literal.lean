import ShellWord.Text.Literal
import ShellWord.Toml.Value

/-!
# Values as literals

How a value is shown in a report. Floating-point numbers have the fewest digits that read back,
in positional notation from `10 ^ -4` up to below `10 ^ 16` and with an exponent elsewhere.
-/

namespace ShellWord.Toml

/-- The digits of a decimal number without zeros at the end. -/
def trimZeros (digits : List Char) : List Char :=
  (digits.reverse.dropWhile (· = '0')).reverse

/-- A decimal number in the notation for floating-point numbers. -/
def decimalLiteral (d : Decimal) : String :=
  let all := Nat.toDigits 10 d.digits
  let digits := trimZeros all
  let place : Int := d.exponent + all.length - 1
  if -4 ≤ place ∧ place < 16 then
    if place < 0 then
      "0." ++ String.ofList (List.replicate ((-place).toNat - 1) '0' ++ digits)
    else
      let whole := place.toNat + 1
      let front := digits.take whole ++ List.replicate (whole - digits.length) '0'
      let back := digits.drop whole
      String.ofList (front ++ '.' :: (if back.isEmpty then ['0'] else back))
  else
    let fraction := if digits.length ≤ 1 then [] else '.' :: digits.drop 1
    let size := Nat.toDigits 10 place.natAbs
    let exponent := List.replicate (2 - size.length) '0' ++ size
    String.ofList (digits.take 1 ++ fraction ++ 'e' :: (if place < 0 then '-' else '+') :: exponent)

def floatLiteral : Binary64 → String
  | .nan => "nan"
  | .infinite negative => if negative then "-inf" else "inf"
  | .finite negative m q =>
    let digits := if m = 0 then "0.0" else decimalLiteral (Binary64.shortest m q)
    (if negative then "-" else "") ++ digits

/-- The fields of a time: hour and minute always, the rest only as far as it is needed. -/
def timeFields (t : Time) : List Nat :=
  [t.hour, t.minute] ++
    (if t.microsecond ≠ 0 then [t.second, t.microsecond]
      else if t.second ≠ 0 then [t.second]
      else [])

def dateFields (d : Date) : List Nat := [d.year, d.month, d.day]

/-- An offset from universal time. Offsets west of it are a day less something. -/
def offsetLiteral (minutes : Int) : String :=
  if minutes = 0 then "datetime.timezone.utc"
  else
    let seconds := minutes * 60
    let delta :=
      if seconds < 0 then s!"days=-1, seconds={seconds + 86400}" else s!"seconds={seconds}"
    s!"datetime.timezone(datetime.timedelta({delta}))"

/-- Fields separated by commas. -/
def commaSeparated (fields : List String) : String := ", ".intercalate fields

mutual

def Value.literal : Value → String
  | .text s => ShellWord.Literal.ofText s
  | .integer n => toString n
  | .float x => floatLiteral x
  | .boolean b => if b then "True" else "False"
  | .date d => s!"datetime.date({commaSeparated ((dateFields d).map toString)})"
  | .time t => s!"datetime.time({commaSeparated ((timeFields t).map toString)})"
  | .dateTime d t offset =>
    let fields := (dateFields d ++ timeFields t).map toString
    let zone := match offset with
      | none => []
      | some minutes => ["tzinfo=" ++ offsetLiteral minutes]
    s!"datetime.datetime({commaSeparated (fields ++ zone)})"
  | .array items => "[" ++ commaSeparated (literals items) ++ "]"
  | .table entries => "\x7b" ++ commaSeparated (entryLiterals entries) ++ "\x7d"

def literals : List Value → List String
  | [] => []
  | v :: rest => v.literal :: literals rest

def entryLiterals : List (String × Value) → List String
  | [] => []
  | (key, v) :: rest => (ShellWord.Literal.ofText key ++ ": " ++ v.literal) :: entryLiterals rest

end

end ShellWord.Toml
