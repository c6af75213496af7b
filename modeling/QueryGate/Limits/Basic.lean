import QueryGate.Error

/-!
# Limits

The limits within which a gate works. Whatever exceeds one of them is refused.
-/

namespace QueryGate

/-- The limits of a gate. -/
structure Limits where
  /-- The greatest number of bytes of rule text. -/
  maxRulesSize : Nat := 1048576
  /-- The greatest number of bytes of a URL, or of a path and a query with the `?` between. -/
  maxUrlLength : Nat := 8192
  /-- The greatest number of parameters of a query. -/
  maxParams : Nat := 100
  /-- The greatest number of pattern expressions kept for a generation. -/
  matcherCacheSize : Nat := 1024
  /-- The greatest number of idle buffers. -/
  poolSize : Nat := 64
  deriving DecidableEq, Repr

namespace Limits

/-- The names of the limits that must not be zero, with their values, in the order in which they
are looked at. -/
def required (limits : Limits) : List (String × Nat) :=
  [("max_rules_size", limits.maxRulesSize), ("max_url_length", limits.maxUrlLength),
    ("max_params", limits.maxParams), ("matcher_cache_size", limits.matcherCacheSize)]

/-- Refuses limits under which nothing could be accepted. -/
def validate (limits : Limits) : Except Error Unit :=
  match limits.required.find? fun (_, value) => value == 0 with
  | some (name, _) => .error (.config (name ++ " must be greater than 0"))
  | none => .ok ()

/-- A description of limits. -/
def describe (limits : Limits) : String :=
  "Config \x7b max_rules_size: " ++ toString limits.maxRulesSize ++
    ", max_url_length: " ++ toString limits.maxUrlLength ++
    ", max_params: " ++ toString limits.maxParams ++
    ", matcher_cache_size: " ++ toString limits.matcherCacheSize ++
    ", pool_size: " ++ toString limits.poolSize ++ " \x7d"

end Limits

end QueryGate
