import QueryGate.Error
import QueryGate.Policy
import QueryGate.Text.Blank

/-!
# Policies that can come into force

A policy may be put together by hand, so it is checked before it comes into force: names and
patterns must not be blank, bounds must be in order, and the rule for every parameter must be
alone in its scope. The first fault found is reported: the rules for every path are looked at
first and then the scopes, each in the order of declaration.
-/

namespace QueryGate

/-- Refuses a rule with a blank name or with its bounds reversed. -/
def Rule.check (rule : Rule) : Except Error Unit := do
  if (Text.trim rule.name.toList).isEmpty then throw (.invalidRule .emptyName)
  match rule.constraint with
  | .range min max =>
    if max < min then throw (.invalidRule (.boundsReversed rule.name min max))
  | _ => return

/-- Refuses rules among which the rule for every parameter has company. -/
def Rule.checkAlone (rules : List Rule) (scope : String) : Except Error Unit :=
  if 1 < rules.length && rules.any Rule.isAcceptAll then
    .error (.invalidRule (.acceptAllNotAlone scope))
  else .ok ()

/-- Refuses a scope that cannot come into force. -/
def Scope.check (scope : Scope) : Except Error Unit := do
  if (Text.trim scope.pattern.toList).isEmpty then throw (.invalidRule .emptyPattern)
  Rule.checkAlone scope.params scope.pattern
  scope.params.forM Rule.check

/-- Refuses a policy that cannot come into force. -/
def Policy.check (policy : Policy) : Except Error Unit := do
  Rule.checkAlone policy.globals "global rules"
  policy.globals.forM Rule.check
  policy.scopes.forM Scope.check

end QueryGate
