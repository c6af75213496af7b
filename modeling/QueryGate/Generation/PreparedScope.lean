import QueryGate.Mask
import QueryGate.NameIndex
import QueryGate.Pattern.GlobStore
import QueryGate.Pattern.Specificity
import QueryGate.Policy

/-!
# Prepared scopes

The rules of one scope, prepared for look-ups by name and by slot, and lists of such scopes in the
order in which they are consulted: from the most to the least specific pattern.
-/

namespace QueryGate

/-- A scope whose names have slots. -/
structure PreparedScope where
  /-- The pattern of the scope. -/
  pattern : Pattern
  /-- The rules; of several with one name only the last is kept. -/
  params : List Rule
  /-- The slots of their names. -/
  mask : Mask
  /-- The rules by slot. -/
  slots : List (Option Rule)

namespace PreparedScope

/-- The rules of a list whose names have slots. -/
def indexed (rules : List Rule) (index : NameIndex) : List Rule :=
  rules.filter fun rule => (index.slot? rule.name).isSome

/-- The mask of the slots of rules. -/
def maskOf (rules : List Rule) (index : NameIndex) : Mask :=
  (rules.filterMap fun rule => index.slot? rule.name).foldl Mask.set (Mask.empty index.size)

/-- The rules by slot; a later rule replaces an earlier one. -/
def slotsOf (rules : List Rule) (index : NameIndex) : List (Option Rule) :=
  rules.foldl
    (fun slots rule =>
      match index.slot? rule.name with
      | some slot => slots.set slot (some rule)
      | none => slots)
    (List.replicate index.size none)

/-- Prepares a scope. Rules whose names have no slot are left out. -/
def ofScope (scope : Scope) (index : NameIndex) : PreparedScope :=
  { pattern := Pattern.ofText scope.pattern
    params := (indexed scope.params index).foldl upsert []
    mask := maskOf scope.params index
    slots := slotsOf scope.params index }

/-- The rule for a slot. -/
def atSlot? (scope : PreparedScope) (slot : Nat) : Option Rule :=
  scope.slots[slot]?.join

/-- The rule for a name. -/
def named? (scope : PreparedScope) (name : String) : Option Rule :=
  scope.params.find? fun rule => rule.name == name

/-- Scopes in the order in which they are consulted. -/
def ordered (scopes : List PreparedScope) : List PreparedScope :=
  scopes.mergeSort fun a b => a.pattern.precedes b.pattern

/-- The scopes that match a path, in order. -/
def allMatching (scopes : List PreparedScope) (path : String) : Lookup (List PreparedScope) :=
  scopes.filterM fun scope => scope.pattern.matchesPathVia path

/-- The first scope that matches a path. -/
def firstMatching (scopes : List PreparedScope) (path : String) : Lookup (Option PreparedScope) :=
  scopes.findM? fun scope => scope.pattern.matchesPathVia path

/-- The first scope that matches a path and declares a slot. -/
def firstDeclaring (scopes : List PreparedScope) (path : String) (slot : Nat) :
    Lookup (Option PreparedScope) :=
  firstMatching (scopes.filter fun scope => scope.mask.get slot) path

end PreparedScope

end QueryGate
