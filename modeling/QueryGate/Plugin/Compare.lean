import QueryGate.Plugin.Basic
import QueryGate.Text.Decimal

/-!
# The comparison plugin

A comparison sign and a number accept the numbers that compare in that way with the given one.
Both are read as double-precision numbers and have to be finite.
-/

namespace QueryGate.Plugin

/-- A comparison. -/
inductive Comparison where
  /-- Greater or equal. -/
  | atLeast
  /-- Less or equal. -/
  | atMost
  /-- Equal. -/
  | equal
  /-- Not equal. -/
  | unequal
  /-- Greater. -/
  | above
  /-- Less. -/
  | below
  deriving DecidableEq, Repr

namespace Comparison

/-- Whether `x` compares with `y` in this way. -/
def holds (comparison : Comparison) (x y : Int) : Bool :=
  match comparison with
  | atLeast => decide (y ≤ x)
  | atMost => decide (x ≤ y)
  | equal => decide (x = y)
  | unequal => decide (x ≠ y)
  | above => decide (y < x)
  | below => decide (x < y)

/-- Reads a comparison sign, the longer ones first, and gives back the text after it. -/
def ofText? (cs : List Char) : Option (Comparison × List Char) :=
  match cs with
  | '>' :: '=' :: rest => some (atLeast, rest)
  | '<' :: '=' :: rest => some (atMost, rest)
  | '=' :: '=' :: rest => some (equal, rest)
  | '!' :: '=' :: rest => some (unequal, rest)
  | '>' :: rest => some (above, rest)
  | '<' :: rest => some (below, rest)
  | _ => none

end Comparison

/-- Reads a comparison with a number. -/
def parseComparison (constraint : String) : Outcome :=
  match Comparison.ofText? constraint.toList with
  | none => .notApplicable
  | some (comparison, rest) =>
    let operand := String.ofList (Text.trim rest)
    match Text.double? operand with
    | none => complain ("invalid comparison operand: " ++ operand)
    | some y => .accepted fun value =>
      .ofBool ((Text.double? value).any fun x => comparison.holds x y)

/-- The comparison plugin. -/
def compare : Plugin where
  name := "compare"
  recognises constraint := (Comparison.ofText? constraint.toList).isSome
  parse _ := parseComparison
  close := .ok ()

end QueryGate.Plugin
