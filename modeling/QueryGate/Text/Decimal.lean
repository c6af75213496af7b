import QueryGate.Text.Numeral

/-!
# Decimal numbers with a fraction or an exponent

A decimal number is a sign, digits with at most one point, and an exponent, of which only the
digits are required. It is read as the nearest double-precision number, where a number half way
between two neighbours goes to the one with the even significand. A finite double is a whole
multiple of the smallest positive one, so it is represented by that multiple and compared exactly.
-/

namespace QueryGate.Text

/-- A decimal number as written: its digits without the point, and the power of ten they count. -/
structure Decimal where
  /-- Whether a minus sign precedes the digits. -/
  negative : Bool
  /-- The digits before and after the point, read as one number. -/
  digits : Nat
  /-- The power of ten. -/
  exponent : Int
  deriving DecidableEq, Repr

namespace Decimal

/-- Splits a sign off. -/
def splitSign (cs : List Char) : Bool × List Char :=
  match cs with
  | '-' :: rest => (true, rest)
  | '+' :: rest => (false, rest)
  | _ => (false, cs)

/-- Reads the exponent after the digits: nothing, or an `e` of either case and a signed number. -/
def readExponent? (cs : List Char) : Option Int :=
  match cs with
  | [] => some 0
  | e :: rest =>
    if e == 'e' || e == 'E' then
      let (negative, rest) := splitSign rest
      (digits? rest).map fun n => if negative then -Int.ofNat n else Int.ofNat n
    else none

/-- Reads a decimal number. -/
def ofText? (cs : List Char) : Option Decimal := do
  let (negative, cs) := splitSign cs
  let whole := cs.takeWhile Char.isDigit
  let rest := cs.dropWhile Char.isDigit
  let (fraction, rest) := match rest with
    | '.' :: rest => (rest.takeWhile Char.isDigit, rest.dropWhile Char.isDigit)
    | _ => ([], rest)
  let digits ← digits? (whole ++ fraction)
  let exponent ← readExponent? rest
  return ⟨negative, digits, exponent - fraction.length⟩

/-- The whole number nearest to `n / d`; of two equally near ones the even one. -/
def roundDiv (n d : Nat) : Nat :=
  let q := n / d
  let r := n % d
  if 2 * r < d then q
  else if d < 2 * r then q + 1
  else if q % 2 = 0 then q else q + 1

/-- The binary digits of a significand. -/
def precision : Nat := 53

/-- The smallest positive double is two to the power of minus this number. -/
def leastExponent : Nat := 1074

/-- The first multiple of the smallest double that is too great for a double. -/
def overflow : Nat := Nat.pow 2 (1024 + leastExponent)

/-- The multiple of the smallest double nearest to `n / d`, where all but the greatest
`precision` binary digits are rounded off. -/
def nearestMultiple (n d : Nat) : Nat :=
  let scaled := n * Nat.pow 2 leastExponent
  let excess := (scaled / d).log2 + 1 - precision
  roundDiv scaled (d * Nat.pow 2 excess) * Nat.pow 2 excess

/-- The size of the nearest double as a multiple of the smallest one; nothing when it overflows.
Numbers that are far out of range on either side are settled by their number of digits. -/
def magnitude? (number : Decimal) : Option Nat :=
  let digitCount : Int := (Nat.toDigits 10 number.digits).length
  if number.digits = 0 then some 0
  else if 400 < digitCount + number.exponent then none
  else if digitCount + number.exponent < -400 then some 0
  else
    let multiple :=
      if 0 ≤ number.exponent then
        nearestMultiple (number.digits * Nat.pow 10 number.exponent.toNat) 1
      else nearestMultiple number.digits (Nat.pow 10 (-number.exponent).toNat)
    if multiple < overflow then some multiple else none

/-- The nearest finite double, as a multiple of the smallest positive one. -/
def toDouble? (number : Decimal) : Option Int :=
  number.magnitude?.map fun m => if number.negative then -Int.ofNat m else Int.ofNat m

end Decimal

/-- The finite double that a text writes. -/
def double? (text : String) : Option Int := do
  (← Decimal.ofText? text.toList).toDouble?

end QueryGate.Text
