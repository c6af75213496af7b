import QueryGate.Regex.Property

/-!
# Sets as they are written

What stands between brackets is read before it is known which flags are in force. So reading builds
an expression over sets, with marks at the places where case would be disregarded, and the set
that it denotes is found once the flags are known. Within ASCII alone some sets cannot be meant:
characters beyond it, complements, which reach beyond it, and the classes of properties.
-/

namespace QueryGate.Regex

/-- A set as it is written. -/
inductive SetExpr where
  /-- A set whose members are written out. -/
  | basic (s : CharSet)
  /-- A class with a short name. -/
  | shorthand (kind : Shorthand)
  /-- The class of a property. -/
  | property (name : PropertyName)
  /-- The characters that are not in the set. -/
  | complement (s : SetExpr)
  /-- The characters of either set. -/
  | union (s t : SetExpr)
  /-- The characters of both sets. -/
  | intersection (s t : SetExpr)
  /-- The characters of the first set that are not in the second. -/
  | difference (s t : SetExpr)
  /-- The characters that are in one of the two sets only. -/
  | symmetricDifference (s t : SetExpr)
  /-- The characters that differ at most in case from a member, where case does not matter. -/
  | folded (s : SetExpr)
  deriving DecidableEq, Repr

/-- How written sets are meant. -/
structure Sense where
  /-- Case does not matter. -/
  caseless : Bool
  /-- The characters there are. -/
  repertoire : Repertoire
  /-- The properties there are. -/
  properties : Properties

/-- The set with what differs only in case from its members, where case does not matter. -/
def Sense.fold (sense : Sense) (s : CharSet) : CharSet :=
  if sense.caseless then
    match sense.repertoire with
    | .unicode => s.caseless
    | .ascii => s.asciiCaseless
  else s

namespace SetExpr

/-- Whether disregarding case in the set adds nothing to it, as far as its form shows. -/
def isFolded : SetExpr → Bool
  | basic s => s.ranges.isEmpty
  | shorthand _ => false
  | property _ => false
  | complement s => s.isFolded
  | union s t => s.isFolded && t.isFolded
  | intersection s t => s.isFolded && t.isFolded
  | difference s t => s.isFolded && t.isFolded
  | symmetricDifference s t => s.isFolded && t.isFolded
  | folded _ => true

/-- The set that is denoted, if there is one in that sense. -/
def denote (sense : Sense) : SetExpr → Option CharSet
  | basic s =>
    match sense.repertoire with
    | .unicode => some s
    | .ascii => if s.isAscii then some s else none
  | shorthand kind => some (kind.setIn sense.repertoire)
  | property name =>
    match sense.repertoire with
    | .unicode => sense.properties.set? name
    | .ascii => none
  | complement s =>
    match sense.repertoire with
    | .unicode => (s.denote sense).map CharSet.complement
    | .ascii => none
  | union s t => do return (← s.denote sense).union (← t.denote sense)
  | intersection s t => do return (← s.denote sense).intersection (← t.denote sense)
  | difference s t => do return (← s.denote sense).difference (← t.denote sense)
  | symmetricDifference s t => do
    return (← s.denote sense).symmetricDifference (← t.denote sense)
  | folded s => do
    let set ← s.denote sense
    return if s.isFolded then set else sense.fold set

end SetExpr

/-- A class or its complement. -/
def SetExpr.negatedIf (negated : Bool) (s : SetExpr) : SetExpr :=
  if negated then .complement s else s

end QueryGate.Regex
