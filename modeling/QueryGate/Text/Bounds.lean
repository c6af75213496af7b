import QueryGate.Text.Blank
import QueryGate.Text.Digit
import QueryGate.Text.Numeral

/-!
# Bounds

The text of a range is two integers joined by `-`, which may have blanks on either side. Whether
a text has this shape is asked with the decimal digits of every script, but only integers in
ASCII digits that fit 64 bits are read.
-/

namespace QueryGate.Text

/-- Reads a signed run of digits of any script: its text and what follows it. -/
def takeInteger (cs : List Char) : Option (List Char × List Char) :=
  let (sign, rest) := match cs with
    | '+' :: rest => (['+'], rest)
    | '-' :: rest => (['-'], rest)
    | _ => ([], cs)
  let digits := rest.takeWhile isDecimalDigit
  if digits.isEmpty then none else some (sign ++ digits, rest.dropWhile isDecimalDigit)

/-- Cuts a text of the shape of bounds into its two integers. -/
def splitBounds? (cs : List Char) : Option (List Char × List Char) := do
  let (lower, rest) ← takeInteger cs
  match trimStart rest with
  | '-' :: rest =>
    let (upper, rest) ← takeInteger (trimStart rest)
    if rest.isEmpty then return (lower, upper) else none
  | _ => none

/-- Whether a text has the shape of bounds. -/
def hasBoundsShape (cs : List Char) : Bool :=
  (splitBounds? cs).isSome

/-- The two integers of a text of the shape of bounds, if both can be read. -/
def bounds? (cs : List Char) : Option (Int × Int) := do
  let (lower, upper) ← splitBounds? cs
  return (← integer? lower, ← integer? upper)

end QueryGate.Text
