import QueryGate.Rule

/-!
# Policies

A policy is what rule text declares: rules that apply on every path, and scopes of rules that
apply where a URL pattern matches. A later declaration replaces an earlier one of the same name in
the same scope and keeps its place; a scope declared again is extended.
-/

namespace QueryGate

/-- Adds a rule, in the place of the rule with its name if there is one. -/
def upsert (rules : List Rule) (rule : Rule) : List Rule :=
  match rules with
  | [] => [rule]
  | first :: rest => if first.name = rule.name then rule :: rest else first :: upsert rest rule

/-- The rules for the paths that a pattern matches. -/
structure Scope where
  /-- The text of the pattern. -/
  pattern : String
  /-- The rules, in the order of their first declaration. -/
  params : List Rule

/-- The rules declared so far. -/
structure Policy where
  /-- The rules for every path. -/
  globals : List Rule := []
  /-- The scopes, in the order of their first declaration. -/
  scopes : List Scope := []

namespace Policy

/-- The policy without rules. -/
def empty : Policy :=
  {}

/-- Declares a rule for every path. -/
def declare (policy : Policy) (rule : Rule) : Policy :=
  { policy with globals := upsert policy.globals rule }

/-- Adds rules to the scope of a pattern among the given scopes. -/
def extendScope (scopes : List Scope) (pattern : String) (params : List Rule) : List Scope :=
  match scopes with
  | [] => [⟨pattern, params.foldl upsert []⟩]
  | scope :: rest =>
    if scope.pattern = pattern then
      { scope with params := params.foldl upsert scope.params } :: rest
    else scope :: extendScope rest pattern params

/-- Declares rules for the paths that a pattern matches. -/
def declareScope (policy : Policy) (pattern : String) (params : List Rule) : Policy :=
  { policy with scopes := extendScope policy.scopes pattern params }

/-- Whether nothing is declared. -/
def isEmpty (policy : Policy) : Bool :=
  policy.globals.isEmpty && policy.scopes.isEmpty

end Policy

end QueryGate
