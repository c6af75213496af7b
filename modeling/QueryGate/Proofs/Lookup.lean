import QueryGate.Generation.Lookup

/-!
# Look-ups give one answer

A look-up may consult and fill the kept pattern expressions. Every kept expression is the one of
its text, so the answer of a look-up is a plain value that does not depend on what is kept. This
module gives the value of every look-up by a function without state; how many expressions are kept
afterwards is not described here.
-/

namespace QueryGate

open Pattern

/-- The answer of a look-up is the given one, whatever is kept. -/
def Lookup.Yields {α : Type} (question : Lookup α) (answer : α) : Prop :=
  ∀ kept : GlobStore, (question.run kept).1 = answer

namespace Lookup.Yields

variable {α β : Type}

/-- A value that needs no look-up is the answer. -/
theorem pure (a : α) : Yields (Pure.pure a : Lookup α) a := by
  intro kept
  rfl

/-- The answer of two look-ups in a row is that of the second, asked with the answer of the
first. -/
theorem bind {question : Lookup α} {next : α → Lookup β} {a : α} {b : β}
    (hq : Yields question a) (hn : Yields (next a) b) : Yields (question >>= next) b := by
  intro kept
  have hrun : ((question >>= next).run kept).1 =
      ((next (question.run kept).1).run (question.run kept).2).1 := rfl
  rw [hrun, hq kept]
  exact hn _

/-- A function of the answer of a look-up is the answer of the look-up followed by it. -/
theorem map {question : Lookup α} {a : α} (f : α → β) (hq : Yields question a) :
    Yields (do return f (← question)) (f a) :=
  hq.bind (pure (f a))

/-- What is gathered in reverse order while a list is filtered. -/
theorem filterAuxM {p : α → Lookup Bool} {b : α → Bool} {xs : List α}
    (hp : ∀ x ∈ xs, Yields (p x) (b x)) (acc : List α) :
    Yields (List.filterAuxM p xs acc) ((xs.filter b).reverse ++ acc) := by
  induction xs generalizing acc with
  | nil => exact pure acc
  | cons x xs ih =>
    have hx := hp x (by simp)
    have hxs := ih (fun y hy => hp y (by simp [hy])) (cond (b x) (x :: acc) acc)
    have hacc : (xs.filter b).reverse ++ cond (b x) (x :: acc) acc =
        ((x :: xs).filter b).reverse ++ acc := by
      cases hb : b x <;> simp [hb]
    rw [hacc] at hxs
    exact hx.bind hxs

/-- A list filtered by look-ups is the list filtered by their answers. -/
theorem filterM {p : α → Lookup Bool} {b : α → Bool} {xs : List α}
    (hp : ∀ x ∈ xs, Yields (p x) (b x)) : Yields (xs.filterM p) (xs.filter b) := by
  have hgathered := filterAuxM hp []
  have hreversed := hgathered.map List.reverse
  rw [List.append_nil, List.reverse_reverse] at hreversed
  exact hreversed

/-- The first item found by look-ups is the first one that their answers hold of. -/
theorem findM? {p : α → Lookup Bool} {b : α → Bool} {xs : List α}
    (hp : ∀ x ∈ xs, Yields (p x) (b x)) : Yields (xs.findM? p) (xs.find? b) := by
  induction xs with
  | nil => exact pure none
  | cons x xs ih =>
    have hx := hp x (by simp)
    have hxs := ih fun y hy => hp y (by simp [hy])
    refine hx.bind ?_
    cases hb : b x with
    | true =>
      rw [List.find?_cons_of_pos hb]
      exact pure (some x)
    | false =>
      rw [List.find?_cons_of_neg (by simp [hb])]
      exact hxs

/-- Look-ups hold of all items if their answers do. -/
theorem allM {p : α → Lookup Bool} {b : α → Bool} {xs : List α}
    (hp : ∀ x ∈ xs, Yields (p x) (b x)) : Yields (xs.allM p) (xs.all b) := by
  induction xs with
  | nil => exact pure true
  | cons x xs ih =>
    have hx := hp x (by simp)
    have hxs := ih fun y hy => hp y (by simp [hy])
    refine hx.bind ?_
    rw [List.all_cons]
    cases b x with
    | true => exact hxs
    | false => exact pure false

end Lookup.Yields

/-! ## Patterns -/

/-- Where nothing but the expression of a pattern is kept under its text, the pattern matches the paths
that it matches without a store. -/
theorem Pattern.fst_matchesPathIn {pattern : Pattern} {store : Lru String Regex}
    (h : pattern.mode = .wildcard → ∀ regex, store.get? pattern.text = some regex →
      toRegex? pattern.text = some regex) (path : String) :
    (pattern.matchesPathIn path store).1 = pattern.matchesPath path := by
  unfold matchesPathIn matchesPath
  cases pattern.text == path with
  | true => rfl
  | false =>
    rw [if_neg Bool.false_ne_true, Bool.false_or]
    cases hmode : pattern.mode with
    | exact => rfl
    | all => rfl
    | stem stem boundary => rfl
    | wildcard =>
      exact congrArg (Option.any (·.search path)) (Lru.value_getOrBuild_of_get? (h hmode))

/-- Kept expressions do not change which paths a pattern matches. -/
theorem Pattern.yields_matchesPathVia (pattern : Pattern) (path : String) :
    Lookup.Yields (pattern.matchesPathVia path) (pattern.matchesPath path) :=
  fun globs => fst_matchesPathIn (fun _ _ hget => globs.coherent.build_eq hget) path

/-! ## Scopes -/

namespace PreparedScope

/-- Whether the scope's pattern matches a path. -/
def appliesTo (path : String) (scope : PreparedScope) : Bool :=
  scope.pattern.matchesPath path

/-- The matching scopes are those whose patterns match. -/
theorem yields_allMatching (scopes : List PreparedScope) (path : String) :
    Lookup.Yields (allMatching scopes path) (scopes.filter (appliesTo path)) :=
  .filterM fun scope _ => scope.pattern.yields_matchesPathVia path

/-- The first matching scope that declares a slot. -/
theorem yields_firstDeclaring (scopes : List PreparedScope) (path : String) (slot : Nat) :
    Lookup.Yields (firstDeclaring scopes path slot)
      ((scopes.filter fun scope => scope.mask.get slot).find? (appliesTo path)) :=
  .findM? fun scope _ => scope.pattern.yields_matchesPathVia path

end PreparedScope

/-! ## Generations -/

namespace Generation

/-- The coverage of a path, computed without kept expressions. -/
def coverageAt (generation : Generation) (path : String) : Coverage :=
  generation.coverageOf (generation.scopes.filter (PreparedScope.appliesTo path))

/-- Kept expressions do not change the coverage of a path. -/
theorem yields_coverage (generation : Generation) (path : String) :
    Lookup.Yields (generation.coverage path) (generation.coverageAt path) :=
  (PreparedScope.yields_allMatching generation.scopes path).map generation.coverageOf

/-- The rule at a slot for a coverage, computed without kept expressions. -/
def ruleUnder (generation : Generation) (coverage : Coverage) (path : String) (slot : Nat) :
    Option Rule :=
  if coverage.specific.get slot then coverage.mostSpecific.bind (·.atSlot? slot)
  else if coverage.url.get slot then
    ((generation.scopes.filter fun scope => scope.mask.get slot).find?
      (PreparedScope.appliesTo path)).bind (·.atSlot? slot)
  else if coverage.global.get slot then generation.globalAtSlot? slot
  else none

/-- Kept expressions do not change the rule at a slot. -/
theorem yields_ruleAtSlot (generation : Generation) (coverage : Coverage) (path : String)
    (slot : Nat) :
    Lookup.Yields (generation.ruleAtSlot coverage path slot)
      (generation.ruleUnder coverage path slot) := by
  unfold ruleAtSlot ruleUnder
  by_cases hspecific : coverage.specific.get slot = true
  · rw [if_pos hspecific, if_pos hspecific]
    exact .pure _
  rw [if_neg hspecific, if_neg hspecific]
  by_cases hurl : coverage.url.get slot = true
  · rw [if_pos hurl, if_pos hurl]
    exact (PreparedScope.yields_firstDeclaring generation.scopes path slot).map
      fun scope => scope.bind (·.atSlot? slot)
  rw [if_neg hurl, if_neg hurl]
  by_cases hglobal : coverage.global.get slot = true
  · rw [if_pos hglobal, if_pos hglobal]
    exact .pure _
  · rw [if_neg hglobal, if_neg hglobal]
    exact .pure none

/-- The rule of a name on a path, computed without kept expressions. -/
def ruleNamed (generation : Generation) (path name : String) : Option Rule :=
  (generation.index.slot? name).bind (generation.ruleUnder (generation.coverageAt path) path)

/-- Kept expressions do not change the rule of a name. -/
theorem yields_ruleFor (generation : Generation) (path name : String) :
    Lookup.Yields (generation.ruleFor (generation.coverageAt path) path name)
      (generation.ruleNamed path name) := by
  unfold ruleFor ruleNamed
  cases generation.index.slot? name with
  | none => exact .pure none
  | some slot => exact generation.yields_ruleAtSlot (generation.coverageAt path) path slot

end Generation

end QueryGate
