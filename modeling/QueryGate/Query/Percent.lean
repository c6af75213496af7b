import QueryGate.Text.Hex
import QueryGate.Text.Utf8

/-!
# Percent-encoded text

A byte may be written as `%` and two hexadecimal digits of either case. Decoding is strict: a `%`
without two digits is refused, and so are bytes that are not UTF-8. A `+` stands for itself.
-/

namespace QueryGate.Query

open QueryGate.Text

/-- The byte `%`. -/
def percentSign : UInt8 := 0x25

/-- The byte that two hexadecimal digits write. -/
def escapedByte? (hi lo : UInt8) : Option UInt8 :=
  (hexNumber? [Char.ofUInt8 hi, Char.ofUInt8 lo]).map UInt8.ofNat

/-- The bytes that a percent-encoded byte sequence stands for. -/
def unescape? : List UInt8 → Option (List UInt8)
  | [] => some []
  | b :: rest =>
    if b == percentSign then
      match rest with
      | hi :: lo :: rest => do
        let byte ← escapedByte? hi lo
        return byte :: (← unescape? rest)
      | _ => none
    else do
      return b :: (← unescape? rest)

/-- The text that a percent-encoded component stands for. -/
def decode? (component : String) : Option String := do
  ofBytes? (← unescape? (bytes component))

end QueryGate.Query
