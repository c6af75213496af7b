import QueryGate.Generation.Basic

/-!
# Which rule governs a parameter

The coverage of a path says which names have a rule there. A name declared by the most specific
matching scope is governed by that scope; failing that by the most specific matching scope that
declares it; failing that by the rules for every path. A name never falls back from a scope that
declares it to a less specific one.
-/

namespace QueryGate

/-- Which slots have a rule on a path, and where from. -/
structure Coverage where
  /-- The slots of the rules for every path. -/
  global : Mask
  /-- The slots that any matching scope declares. -/
  url : Mask
  /-- The slots that the most specific matching scope declares. -/
  specific : Mask
  /-- The slots of any of these. -/
  combined : Mask
  /-- The most specific matching scope. -/
  mostSpecific : Option PreparedScope

namespace Generation

/-- The coverage of a path that is matched by the given scopes, in order. -/
def coverageOf (generation : Generation) (found : List PreparedScope) : Coverage :=
  let none := Mask.empty generation.index.size
  let url := (found.map PreparedScope.mask).foldl Mask.union none
  let specific := (found.head?.map fun scope => none.union scope.mask).getD none
  { global := generation.globalMask
    url
    specific
    combined := (generation.globalMask.union url).union specific
    mostSpecific := found.head? }

/-- The coverage of a path. -/
def coverage (generation : Generation) (path : String) : Lookup Coverage := do
  return generation.coverageOf (← PreparedScope.allMatching generation.scopes path)

/-- Whether every parameter is accepted on a path of this coverage. -/
def acceptsAll (generation : Generation) (coverage : Coverage) : Bool :=
  generation.acceptAllSlot.any coverage.combined.get

/-- The rule that governs a slot. -/
def ruleAtSlot (generation : Generation) (coverage : Coverage) (path : String) (slot : Nat) :
    Lookup (Option Rule) := do
  if coverage.specific.get slot then return coverage.mostSpecific.bind (·.atSlot? slot)
  if coverage.url.get slot then
    let scope ← PreparedScope.firstDeclaring generation.scopes path slot
    return scope.bind (·.atSlot? slot)
  if coverage.global.get slot then return generation.globalAtSlot? slot
  return none

/-- The rule that governs a name. -/
def ruleFor (generation : Generation) (coverage : Coverage) (path name : String) :
    Lookup (Option Rule) :=
  match generation.index.slot? name with
  | some slot => generation.ruleAtSlot coverage path slot
  | none => return none

end Generation

end QueryGate
