import QueryGate.Lru
import QueryGate.Pattern.Basic

/-!
# Kept expressions of patterns

The expressions of patterns that need one are kept in a bounded store, so that a pattern is not
compiled for every path. A pattern takes whatever it finds under its text for its expression. The
store of a gate is filled by patterns alone, so that what they find there is just that.
-/

namespace QueryGate

/-- Whether the pattern matches a path, with the help of the expressions in a store, and the store
afterwards. -/
def Pattern.matchesPathIn (pattern : Pattern) (path : String) (store : Lru String Regex) :
    Bool × Lru String Regex :=
  if pattern.text == path then (true, store)
  else
    match pattern.mode with
    | .exact => (false, store)
    | .all => (true, store)
    | .stem stem boundary => (Mode.stemMatches stem boundary path, store)
    | .wildcard =>
      let answer := store.getOrBuild pattern.text fun _ => toRegex? pattern.text
      (answer.value.any (·.search path), answer.store)

/-- Matching puts nothing into a store but expressions under their texts. -/
theorem Pattern.coherent_matchesPathIn {store : Lru String Regex} (h : store.Coherent toRegex?)
    (pattern : Pattern) (path : String) :
    (pattern.matchesPathIn path store).2.Coherent toRegex? := by
  unfold matchesPathIn
  split
  · exact h
  · split
    · exact h
    · exact h
    · exact h
    · exact h.getOrBuild pattern.text

/-- The expressions kept for the patterns of a gate, by text. -/
structure GlobStore where
  /-- The store. -/
  store : Lru String Regex
  /-- Every entry is the expression of the text that it is kept under. -/
  coherent : store.Coherent Pattern.toRegex?

/-- A computation that may consult and fill the kept expressions. -/
abbrev Lookup := StateM GlobStore

namespace GlobStore

/-- Nothing kept yet. -/
def empty (capacity : Nat) : GlobStore :=
  ⟨Lru.empty capacity, Lru.coherent_empty _ capacity⟩

/-- The number of expressions kept. -/
def size (globs : GlobStore) : Nat :=
  globs.store.size

/-- Forgets every expression. -/
def clear (globs : GlobStore) : GlobStore :=
  ⟨globs.store.clear, Lru.coherent_clear _ globs.store⟩

end GlobStore

/-- Whether the pattern matches a path, with the help of kept expressions. -/
def Pattern.matchesPathVia (pattern : Pattern) (path : String) : Lookup Bool := fun globs =>
  ((pattern.matchesPathIn path globs.store).1,
    ⟨(pattern.matchesPathIn path globs.store).2, coherent_matchesPathIn globs.coherent pattern path⟩)

end QueryGate
