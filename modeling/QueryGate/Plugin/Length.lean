import QueryGate.Plugin.Basic
import QueryGate.Text.Cut

/-!
# The length plugin

`len:MIN..MAX` accepts the values whose number of characters lies between two bounds, both
included. Either bound may be left out, and `len:N` asks for exactly `N` characters.
-/

namespace QueryGate.Plugin

open QueryGate.Text

/-- Reads one bound; a missing one is replaced by `default`. -/
def lengthBound? (default : Nat) (part : List Char) : Option Nat :=
  if (trim part).isEmpty then some default else natural? (trim part)

/-- The two bounds that the text after the keyword gives. -/
def lengthBounds? (body : List Char) : Option (Nat × Nat) :=
  match cutAtText? ['.', '.'] body with
  | some (lower, upper) => do
    return (← lengthBound? 0 lower, ← lengthBound? wordMax upper)
  | none => (natural? (trim body)).map fun n => (n, n)

/-- Reads the constraint of a length. -/
def parseLength (constraint : String) : Outcome :=
  match afterKeyword? "len:" constraint with
  | none => .notApplicable
  | some body =>
    match lengthBounds? body with
    | none => complain ("invalid length bounds: " ++ String.ofList body)
    | some (min, max) =>
      if max < min then
        complain ("invalid length range: " ++ toString min ++ " > " ++ toString max)
      else .accepted fun value =>
        .ofBool (decide (min ≤ value.length) && decide (value.length ≤ max))

/-- The length plugin. -/
def length : Plugin where
  name := "length"
  recognises := hasKeyword "len:"
  parse _ := parseLength
  close := .ok ()

end QueryGate.Plugin
