/-!
# Binary floating-point numbers

The double-precision format as exact integers: a finite number is a mantissa times a power of two.
`ofDecimal` rounds a decimal number to the nearest double, ties to the even mantissa, and
`shortest` finds the decimal number with the fewest digits that rounds back to a double, of several
the nearest.
-/

namespace ShellWord

/-- A double-precision number. Finite numbers are `mantissa * 2 ^ exponent`, where the mantissa is
below `2 ^ 53`, and at least `2 ^ 52` unless the exponent is the least one, `-1074`. -/
inductive Binary64
  | finite (negative : Bool) (mantissa : Nat) (exponent : Int)
  | infinite (negative : Bool)
  | nan
  deriving DecidableEq, Repr

/-- The quotient rounded to the nearest integer, ties to the even one. -/
def roundQuotient (num den : Nat) : Nat :=
  let q := num / den
  let twice := 2 * (num % den)
  if den < twice ∨ (twice = den ∧ q % 2 = 1) then q + 1 else q

/-- How many decimal digits a number has; zero has none. -/
def decimalLength (n : Nat) : Nat := if n = 0 then 0 else (Nat.toDigits 10 n).length

/-- A decimal number `digits * 10 ^ exponent`. -/
structure Decimal where
  digits : Nat
  exponent : Int
  deriving DecidableEq, Repr

/-- The number as a quotient of natural numbers. -/
def Decimal.quotient (d : Decimal) : Nat × Nat :=
  if 0 ≤ d.exponent then (d.digits * Nat.pow 10 d.exponent.toNat, 1)
  else (d.digits, Nat.pow 10 (-d.exponent).toNat)

namespace Binary64

/-- The nearest double to the positive quotient `num / den`. -/
def ofQuotient (negative : Bool) (num den : Nat) : Binary64 :=
  let guess : Int := max (-1074) ((num.log2 : Int) - (den.log2 : Int) - 53)
  let scaled (q : Int) : Nat × Nat :=
    if 0 ≤ q then (num, den * Nat.pow 2 q.toNat) else (num * Nat.pow 2 (-q).toNat, den)
  let first := scaled guess
  let q := if Nat.pow 2 53 ≤ first.1 / first.2 then guess + 1 else guess
  let (n, d) := scaled q
  let m := roundQuotient n d
  let (m, q) := if m = Nat.pow 2 53 then (Nat.pow 2 52, q + 1) else (m, q)
  if 971 < q then .infinite negative else .finite negative m q

/-- The nearest double to a decimal number. Numbers beyond all doubles are recognised by the
place of their first digit. -/
def ofDecimal (negative : Bool) (d : Decimal) : Binary64 :=
  if d.digits = 0 then .finite negative 0 (-1074)
  else
    let place := d.exponent + decimalLength d.digits
    if 400 < place then .infinite negative
    else if place < -400 then .finite negative 0 (-1074)
    else ofQuotient negative d.quotient.1 d.quotient.2

/-- The numbers that round to a positive double, as three numerators over one denominator: the
lower end, the double itself and the upper end. The ends belong to the interval iff `closed`. -/
structure Interval where
  low : Nat
  value : Nat
  high : Nat
  den : Nat
  closed : Bool
  deriving DecidableEq, Repr

/-- The interval of a positive double. Below a power of two the doubles lie closer. -/
def interval (m : Nat) (q : Int) : Interval :=
  let up := if 0 ≤ q then Nat.pow 2 q.toNat else 1
  let den := if 0 ≤ q then 4 else 4 * Nat.pow 2 (-q).toNat
  let below := if m = Nat.pow 2 52 ∧ q ≠ -1074 then 1 else 2
  ⟨(4 * m - below) * up, 4 * m * up, (4 * m + 2) * up, den, m % 2 = 0⟩

def Interval.contains (i : Interval) (d : Decimal) : Bool :=
  let (n, den) := d.quotient
  let x := n * i.den
  if i.closed then i.low * den ≤ x && x ≤ i.high * den else i.low * den < x && x < i.high * den

/-- Twice the distance between the decimal number and the double would order candidates; this is
the distance itself, over the product of both denominators. -/
def Interval.distance (i : Interval) (d : Decimal) : Nat :=
  let (n, den) := d.quotient
  (n * i.den - i.value * den) + (i.value * den - n * i.den)

/-- The place of the first digit of a positive quotient: `10 ^ place` is at most the quotient, and
`10 ^ (place + 1)` is more. -/
def firstPlace (num den : Nat) : Int :=
  if den ≤ num then (decimalLength (num / den) : Int) - 1
  else
    let n := decimalLength (den / num)
    if den ≤ num * Nat.pow 10 (n - 1) then -((n : Int) - 1) else -(n : Int)

/-- The better one of the two neighbours of a double among the decimal numbers with a given last
place, if one lies in the interval. -/
def neighbour? (i : Interval) (place : Int) : Option Decimal :=
  let unit : Decimal := ⟨1, place⟩
  let (n, den) := unit.quotient
  let below : Decimal := ⟨i.value * den / (i.den * n), place⟩
  let above : Decimal := ⟨below.digits + 1, place⟩
  match i.contains below, i.contains above with
  | true, true =>
    let down := i.distance below
    let up := i.distance above
    if up < down ∨ (up = down ∧ below.digits % 2 = 1) then some above else some below
  | true, false => some below
  | false, true => some above
  | false, false => none

/-- The decimal number with the fewest digits that rounds to a positive double; seventeen digits
always suffice. -/
def shortest (m : Nat) (q : Int) : Decimal :=
  let i := interval m q
  let first := firstPlace i.value i.den
  match (List.range 17).findSome? fun (n : Nat) => neighbour? i (first - (n : Int)) with
  | some d => d
  | none => ⟨m, 0⟩

end Binary64

end ShellWord
