/-!
# Decimal numerals of bounded integers

A numeral is an optional sign followed by at least one ASCII digit and nothing else: no blanks,
no separators. Leading zeros are allowed. A number outside the bounds of its type is no numeral
of that type.
-/

namespace QueryGate.Text

/-- The greatest unsigned number of 64 bits. -/
def wordMax : Nat := Nat.pow 2 64 - 1

/-- The value of a run of decimal digits, the most significant first. -/
def digitsValue (cs : List Char) : Nat :=
  cs.foldl (fun n c => 10 * n + (c.toNat - '0'.toNat)) 0

/-- The number written by a non-empty run of ASCII digits. -/
def digits? (cs : List Char) : Option Nat :=
  if !cs.isEmpty && cs.all Char.isDigit then some (digitsValue cs) else none

/-- An unsigned 64-bit numeral: a `+` may precede the digits. -/
def natural? (cs : List Char) : Option Nat :=
  let magnitude := match cs with
    | '+' :: rest => digits? rest
    | _ => digits? cs
  magnitude.filter (· ≤ wordMax)

/-- A signed 64-bit numeral: a `+` or a `-` may precede the digits. -/
def integer? (cs : List Char) : Option Int :=
  let value : Option Int := match cs with
    | '+' :: rest => (digits? rest).map Int.ofNat
    | '-' :: rest => (digits? rest).map fun n => -Int.ofNat n
    | _ => (digits? cs).map Int.ofNat
  let bound := Int.ofNat (Nat.pow 2 63)
  value.filter fun n => decide (-bound ≤ n) && decide (n < bound)

end QueryGate.Text
