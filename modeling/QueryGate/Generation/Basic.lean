import QueryGate.Generation.PreparedScope
import QueryGate.Policy.Check

/-!
# Generations

A generation is a policy made ready for look-ups: every name has a slot, the rules of every scope
are known by slot, and scopes are ordered by specificity. It never changes; new rules make a new
generation with the next number.
-/

namespace QueryGate

/-- A policy made ready for look-ups. -/
structure Generation where
  /-- The number of the generation. -/
  number : Nat
  /-- The slots of all names. -/
  index : NameIndex
  /-- The rules for every path, by slot. -/
  globals : List (Option Rule)
  /-- The slots of the rules for every path. -/
  globalMask : Mask
  /-- The number of rules for every path. -/
  globalCount : Nat
  /-- The rules per URL pattern, the most specific first. -/
  scopes : List PreparedScope
  /-- The slot of the name that stands for every parameter, if a scope declares it. -/
  acceptAllSlot : Option Nat

namespace Generation

/-- The generation without rules. -/
def empty (number : Nat) : Generation :=
  { number
    index := .empty
    globals := []
    globalMask := .empty 0
    globalCount := 0
    scopes := []
    acceptAllSlot := none }

/-- The rule for every path at a slot. -/
def globalAtSlot? (generation : Generation) (slot : Nat) : Option Rule :=
  generation.globals[slot]?.join

/-- Whether there are no rules. -/
def isEmpty (generation : Generation) : Bool :=
  generation.globalCount == 0 && generation.scopes.isEmpty

/-- The slots of all names of a policy, in the order of their first declaration. -/
def indexOf (policy : Policy) : NameIndex :=
  ((policy.globals ++ policy.scopes.flatMap Scope.params).map Rule.name).foldl
    NameIndex.insert .empty

/-- Makes a policy ready that has passed its checks. -/
def build (policy : Policy) (number : Nat) : Generation :=
  let index := indexOf policy
  { number
    index
    globals := PreparedScope.slotsOf policy.globals index
    globalMask := PreparedScope.maskOf policy.globals index
    globalCount := policy.globals.length
    scopes :=
      PreparedScope.ordered (policy.scopes.map fun scope => PreparedScope.ofScope scope index)
    acceptAllSlot := index.slot? acceptAllName }

/-- Makes a policy ready, if it can be. -/
def prepare (policy : Policy) (number : Nat) : Except Error Generation := do
  policy.check
  return build policy number

end Generation

end QueryGate
