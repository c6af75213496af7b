import QueryGate.Proofs.Lookup
import QueryGate.Proofs.Slots
import QueryGate.Proofs.Specificity

/-!
# The rule that governs a name

A policy answers which rule governs a name on a path by a plain search: the scopes are consulted in
their order, the first one that matches the path and declares the name decides, and the rules for
every path come last. A generation answers the same question by slots, masks and prepared scopes.
The main statement is that both give the same rule for every policy, path and name, whatever
pattern expressions are kept.
-/

namespace QueryGate

/-! ## Searching a policy by name -/

namespace Scope

/-- The pattern of the scope's text. -/
def toPattern (scope : Scope) : Pattern :=
  Pattern.ofText scope.pattern

/-- Whether the scope's pattern matches a path. -/
def appliesTo (path : String) (scope : Scope) : Bool :=
  scope.toPattern.matchesPath path

/-- Whether the scope declares a name. -/
def declares (name : String) (scope : Scope) : Bool :=
  Rule.declares scope.params name

/-- Whether the scope's pattern precedes that of another scope. -/
def Precedes (a b : Scope) : Prop :=
  a.toPattern.Precedes b.toPattern

instance (a b : Scope) : Decidable (a.Precedes b) :=
  inferInstanceAs (Decidable (Pattern.Precedes _ _))

end Scope

namespace Policy

/-- The scopes of a policy from the most to the least specific one. -/
def consulted (policy : Policy) : List Scope :=
  policy.scopes.mergeSort fun a b => decide (a.Precedes b)

/-- The rule that governs a name on a path: the last declaration in the first matching scope that
declares the name, or else the last declaration for every path. -/
def governingRule (policy : Policy) (path name : String) : Option Rule :=
  match policy.consulted.find? fun scope => scope.appliesTo path && scope.declares name with
  | some scope => Rule.lastNamed? scope.params name
  | none => Rule.lastNamed? policy.globals name

variable {policy : Policy} {path name : String}

/-- The scopes are consulted once each. -/
theorem perm_consulted (policy : Policy) : policy.consulted.Perm policy.scopes :=
  List.mergeSort_perm _ _

/-- All scopes are consulted. -/
theorem mem_consulted {scope : Scope} : scope ∈ policy.consulted ↔ scope ∈ policy.scopes :=
  List.mem_mergeSort

/-- Each scope is consulted before those that it precedes. -/
theorem pairwise_consulted (policy : Policy) : policy.consulted.Pairwise Scope.Precedes := by
  have hsorted : policy.consulted.Pairwise fun a b => decide (a.Precedes b) = true := by
    apply List.pairwise_mergeSort
    · intro a b c hab hbc
      exact decide_eq_true ((of_decide_eq_true hab).trans (of_decide_eq_true hbc))
    · intro a b
      rw [Bool.or_eq_true, decide_eq_true_iff, decide_eq_true_iff]
      exact a.toPattern.precedes_total b.toPattern
  exact hsorted.imp of_decide_eq_true

/-- Where a matching scope declares a name, the search for such a scope succeeds. -/
theorem exists_find?_of_declares {scope : Scope} (hmem : scope ∈ policy.scopes)
    (happlies : scope.appliesTo path = true) (hdeclares : scope.declares name = true) :
    ∃ governing, policy.consulted.find?
      (fun scope => scope.appliesTo path && scope.declares name) = some governing := by
  rw [← Option.isSome_iff_exists, List.find?_isSome]
  exact ⟨scope, mem_consulted.mpr hmem, by rw [happlies, hdeclares]; rfl⟩

/-- A name that a matching scope declares is governed by a matching scope that is consulted no
later and declares the name itself. -/
theorem exists_governing_scope {scope : Scope} (hmem : scope ∈ policy.scopes)
    (happlies : scope.appliesTo path = true) (hdeclares : scope.declares name = true) :
    ∃ governing ∈ policy.scopes, governing.appliesTo path = true ∧
      (governing = scope ∨ governing.Precedes scope) ∧
      ∃ rule ∈ governing.params, rule.name = name ∧
        policy.governingRule path name = some rule := by
  obtain ⟨governing, hfind⟩ := exists_find?_of_declares hmem happlies hdeclares
  have hboth := List.find?_some hfind
  obtain ⟨hgoverning, hnamed⟩ := (Bool.and_eq_true _ _).mp hboth
  have hrule : (Rule.lastNamed? governing.params name).isSome = true := by
    rw [Rule.isSome_lastNamed?]
    exact hnamed
  obtain ⟨rule, hrule⟩ := Option.isSome_iff_exists.mp hrule
  refine ⟨governing, mem_consulted.mp (List.mem_of_find?_eq_some hfind), hgoverning, ?_, rule,
    Rule.mem_of_lastNamed? hrule, Rule.name_of_lastNamed? hrule, ?_⟩
  · exact eq_or_rel_of_find? (pairwise_consulted policy) hfind (mem_consulted.mpr hmem)
      (by rw [happlies, hdeclares]; rfl)
  · unfold governingRule
    rw [hfind]
    exact hrule

end Policy

/-! ## Searching a generation by slot -/

namespace Generation

variable {generation : Generation} {path : String} {slot : Nat}

/-- All masks of the generation are sets of its slots. -/
structure Framed (generation : Generation) : Prop where
  /-- The mask of the rules for every path is one. -/
  globalMask : generation.globalMask.Fits generation.index.size
  /-- The mask of every scope is one. -/
  scopes : ∀ scope ∈ generation.scopes, scope.mask.Fits generation.index.size

/-- The rule that governs a slot on a path: that of the first matching scope that declares the
slot, or else that for every path. -/
def governingSlot (generation : Generation) (path : String) (slot : Nat) : Option Rule :=
  match generation.scopes.find? fun scope => scope.appliesTo path && scope.mask.get slot with
  | some scope => scope.atSlot? slot
  | none => if generation.globalMask.get slot then generation.globalAtSlot? slot else none

/-- The specific mask of a path is that of the first matching scope. -/
theorem Framed.get_specific (h : generation.Framed) (path : String) (slot : Nat) :
    (generation.coverageAt path).specific.get slot =
      (generation.scopes.find? (PreparedScope.appliesTo path)).any (·.mask.get slot) := by
  unfold coverageAt coverageOf
  dsimp only
  rw [List.head?_filter]
  cases hfind : generation.scopes.find? (PreparedScope.appliesTo path) with
  | none => exact Mask.get_empty _ _
  | some scope =>
    have hmask := h.scopes scope (List.mem_of_find?_eq_some hfind)
    change ((Mask.empty generation.index.size).union scope.mask).get slot = scope.mask.get slot
    rw [(Mask.fits_empty _).get_union hmask, Mask.get_empty, Bool.false_or]

/-- The URL mask of a path has the slots that any matching scope declares. -/
theorem Framed.get_url (h : generation.Framed) (path : String) (slot : Nat) :
    (generation.coverageAt path).url.get slot =
      generation.scopes.any fun scope => scope.appliesTo path && scope.mask.get slot := by
  unfold coverageAt coverageOf
  dsimp only
  rw [(Mask.fits_empty generation.index.size).get_foldl_union, Mask.get_empty, Bool.false_or,
    List.any_map, List.any_filter]
  · rfl
  · intro mask hmask
    obtain ⟨scope, hscope, rfl⟩ := List.mem_map.mp hmask
    exact h.scopes scope (List.mem_filter.mp hscope).1

/-- The URL mask of a path is a set of slots. -/
theorem Framed.fits_url (h : generation.Framed) (path : String) :
    (generation.coverageAt path).url.Fits generation.index.size := by
  refine (Mask.fits_empty generation.index.size).foldl_union ?_
  intro mask hmask
  obtain ⟨scope, hscope, rfl⟩ := List.mem_map.mp hmask
  exact h.scopes scope (List.mem_filter.mp hscope).1

/-- The specific mask of a path is a set of slots. -/
theorem Framed.fits_specific (h : generation.Framed) (path : String) :
    (generation.coverageAt path).specific.Fits generation.index.size := by
  have hnone := Mask.fits_empty generation.index.size
  unfold coverageAt coverageOf
  dsimp only
  rw [List.head?_filter]
  cases hfind : generation.scopes.find? (PreparedScope.appliesTo path) with
  | none => exact hnone
  | some scope => exact hnone.union (h.scopes scope (List.mem_of_find?_eq_some hfind))

/-- The combined mask of a path is a set of slots. -/
theorem Framed.fits_combined (h : generation.Framed) (path : String) :
    (generation.coverageAt path).combined.Fits generation.index.size :=
  (h.globalMask.union (h.fits_url path)).union (h.fits_specific path)

/-- The combined mask of a path has the slots of the three others. -/
theorem Framed.get_combined (h : generation.Framed) (path : String) (slot : Nat) :
    (generation.coverageAt path).combined.get slot =
      ((generation.coverageAt path).global.get slot || (generation.coverageAt path).url.get slot ||
        (generation.coverageAt path).specific.get slot) := by
  have hglobal : (generation.coverageAt path).global.Fits generation.index.size := h.globalMask
  have hurl := h.fits_url path
  rw [← hglobal.get_union hurl, ← (hglobal.union hurl).get_union (h.fits_specific path)]
  rfl

/-- No rule is found for a slot that is not in the combined mask. -/
theorem Framed.ruleUnder_of_get_combined (h : generation.Framed)
    (hslot : (generation.coverageAt path).combined.get slot = false) :
    generation.ruleUnder (generation.coverageAt path) path slot = none := by
  rw [h.get_combined, Bool.or_eq_false_iff, Bool.or_eq_false_iff] at hslot
  obtain ⟨⟨hglobal, hurl⟩, hspecific⟩ := hslot
  unfold ruleUnder
  rw [hspecific, hurl, hglobal]
  rfl

/-- No name has a rule on a path where the combined mask is empty. -/
theorem Framed.ruleNamed_of_isEmpty (h : generation.Framed)
    (hempty : (generation.coverageAt path).combined.isEmpty = true) (name : String) :
    generation.ruleNamed path name = none := by
  unfold ruleNamed
  cases generation.index.slot? name with
  | none => rfl
  | some slot => exact h.ruleUnder_of_get_combined (Mask.get_of_isEmpty hempty slot)

/-- The three masks of a path lead to the first matching scope that declares the slot. -/
theorem Framed.ruleUnder_coverageAt (h : generation.Framed) (path : String) (slot : Nat) :
    generation.ruleUnder (generation.coverageAt path) path slot =
      generation.governingSlot path slot := by
  unfold ruleUnder governingSlot
  rw [h.get_specific, h.get_url]
  by_cases hfirst : (generation.scopes.find? (PreparedScope.appliesTo path)).any
      (·.mask.get slot) = true
  · -- The first matching scope declares the slot, so it is also the first to do both.
    obtain ⟨scope, hfind, hslot⟩ := (Option.any_eq_true _ _).mp hfirst
    obtain ⟨happlies, before, after, hsplit, hbefore⟩ := List.find?_eq_some_iff_append.mp hfind
    have hboth : generation.scopes.find?
        (fun scope => scope.appliesTo path && scope.mask.get slot) = some scope := by
      refine List.find?_eq_some_iff_append.mpr
        ⟨by rw [happlies, hslot]; rfl, before, after, hsplit, ?_⟩
      intro other hother
      have hno := hbefore other hother
      rw [Bool.not_eq_true'] at hno
      rw [hno]
      rfl
    have hmost : (generation.coverageAt path).mostSpecific = some scope := by
      unfold coverageAt coverageOf
      exact (List.head?_filter ..).trans hfind
    rw [if_pos hfirst, hboth, hmost]
    rfl
  rw [if_neg hfirst]
  have hsearch : (generation.scopes.filter fun scope => scope.mask.get slot).find?
      (PreparedScope.appliesTo path) =
        generation.scopes.find? fun scope => scope.appliesTo path && scope.mask.get slot := by
    rw [List.find?_filter]
    congr 1
    funext scope
    rw [Bool.eq_iff_iff, decide_eq_true_iff, Bool.and_eq_true, and_comm]
  rw [hsearch]
  cases hfind : generation.scopes.find?
      fun scope => scope.appliesTo path && scope.mask.get slot with
  | some scope =>
    have hany : (generation.scopes.any
        fun scope => scope.appliesTo path && scope.mask.get slot) = true := by
      rw [← List.isSome_find?, hfind]
      rfl
    rw [if_pos hany]
    rfl
  | none =>
    have hany : ¬(generation.scopes.any
        fun scope => scope.appliesTo path && scope.mask.get slot) = true := by
      rw [← List.isSome_find?, hfind]
      exact Bool.false_ne_true
    rw [if_neg hany]
    rfl

/-! ## Generations made from policies -/

/-- A generation made from a policy has masks over its own slots. -/
theorem framed_build (policy : Policy) (number : Nat) : (build policy number).Framed where
  globalMask := PreparedScope.fits_maskOf policy.globals (indexOf policy)
  scopes := by
    intro prepared hprepared
    obtain ⟨scope, _, rfl⟩ := List.mem_map.mp (List.mem_mergeSort.mp hprepared)
    exact PreparedScope.fits_maskOf scope.params (indexOf policy)

/-- Scopes are prepared in the order in which they are consulted. -/
theorem scopes_build (policy : Policy) (number : Nat) :
    (build policy number).scopes =
      policy.consulted.map fun scope => PreparedScope.ofScope scope (indexOf policy) := by
  change PreparedScope.ordered _ = _
  unfold PreparedScope.ordered Policy.consulted
  symm
  apply List.map_mergeSort
  intro a _ b _
  rw [Bool.eq_iff_iff, decide_eq_true_iff]
  exact (Pattern.precedes_iff a.toPattern b.toPattern).symm

/-- Searching a generation by the slot of a name is searching its policy by the name. -/
theorem governingSlot_build {policy : Policy} {number : Nat} {name : String}
    (hslot : (indexOf policy).slot? name = some slot) :
    (build policy number).governingSlot path slot = policy.governingRule path name := by
  have hpredicate : (fun scope : PreparedScope => scope.appliesTo path && scope.mask.get slot) ∘
      (fun scope => PreparedScope.ofScope scope (indexOf policy)) =
        fun scope => scope.appliesTo path && scope.declares name := by
    funext scope
    exact congrArg (scope.appliesTo path && ·) (PreparedScope.get_maskOf hslot scope.params)
  unfold governingSlot Policy.governingRule
  rw [scopes_build, List.find?_map, hpredicate]
  cases policy.consulted.find? fun scope => scope.appliesTo path && scope.declares name with
  | some scope => exact PreparedScope.join_slotsOf hslot scope.params
  | none =>
    change (if (PreparedScope.maskOf policy.globals (indexOf policy)).get slot then
      (PreparedScope.slotsOf policy.globals (indexOf policy))[slot]?.join else none) = _
    rw [PreparedScope.get_maskOf hslot, PreparedScope.join_slotsOf hslot,
      ← Rule.isSome_lastNamed?]
    cases Rule.lastNamed? policy.globals name <;> rfl

/-- A name without slot is declared nowhere. -/
theorem governingRule_of_slot?_eq_none {policy : Policy} {name : String}
    (hslot : (indexOf policy).slot? name = none) : policy.governingRule path name = none := by
  have hnowhere : ¬(∃ slot, (indexOf policy).slot? name = some slot) := by
    rw [hslot]
    rintro ⟨slot, hsome⟩
    cases hsome
  rw [NameIndex.exists_slot?_iff, mem_names_indexOf, not_or] at hnowhere
  obtain ⟨hglobals, hscopes⟩ := hnowhere
  have hnone : policy.consulted.find?
      (fun scope => scope.appliesTo path && scope.declares name) = none := by
    rw [List.find?_eq_none]
    intro scope hscope hboth
    exact hscopes ⟨scope, Policy.mem_consulted.mp hscope, ((Bool.and_eq_true _ _).mp hboth).2⟩
  unfold Policy.governingRule
  rw [hnone]
  rw [← Rule.isSome_lastNamed?, Bool.not_eq_true, Option.isSome_eq_false_iff,
    Option.isNone_iff_eq_none] at hglobals
  exact hglobals

/-- The rule that a generation has for a name is the one that governs the name in its policy. -/
theorem ruleNamed_build (policy : Policy) (number : Nat) (path name : String) :
    (build policy number).ruleNamed path name = policy.governingRule path name := by
  change ((indexOf policy).slot? name).bind _ = _
  cases hslot : (indexOf policy).slot? name with
  | none => exact (governingRule_of_slot?_eq_none hslot).symm
  | some slot =>
    rw [← governingSlot_build hslot, ← (framed_build policy number).ruleUnder_coverageAt]
    rfl

/-- A generation is made only from a policy that passes its checks. -/
theorem prepare_eq_ok_iff {policy : Policy} {number : Nat} {generation : Generation} :
    prepare policy number = .ok generation ↔
      policy.check = .ok () ∧ generation = build policy number := by
  unfold prepare
  cases policy.check with
  | error error => simp [bind, Except.bind]
  | ok => simp [bind, Except.bind, pure, Except.pure, eq_comm]

/-- Whatever pattern expressions are kept, the rule that a prepared policy finds for a name is the
one that a search of the policy by the name finds. A name declared by a matching scope is governed
by such a scope, and neither a less specific one nor the rules for every path take its place. -/
theorem ruleFor_coverage_eq_governingRule {policy : Policy} {number : Nat}
    {generation : Generation} (hprepare : prepare policy number = .ok generation)
    (path name : String) (kept later : GlobStore) :
    ((generation.ruleFor ((generation.coverage path).run kept).1 path name).run later).1 =
        policy.governingRule path name ∧
      ∀ scope ∈ policy.scopes, scope.appliesTo path = true → scope.declares name = true →
        ∃ governing ∈ policy.scopes, governing.appliesTo path = true ∧
          (governing = scope ∨ governing.Precedes scope) ∧
          ∃ rule ∈ governing.params, rule.name = name ∧
            policy.governingRule path name = some rule := by
  obtain ⟨_, rfl⟩ := prepare_eq_ok_iff.mp hprepare
  constructor
  · rw [(build policy number).yields_coverage path kept,
      (build policy number).yields_ruleFor path name later, ruleNamed_build]
  · intro scope hmem happlies hdeclares
    exact Policy.exists_governing_scope hmem happlies hdeclares

/-- A policy with three layers, of which the first does not declare `x`. -/
def layeredPolicy : Policy where
  globals := [⟨"x", .any, false⟩]
  scopes := [⟨"/api/users", [⟨"y", .any, false⟩]⟩, ⟨"/api/*", [⟨"x", .range 1 5, false⟩]⟩]

/-- Where the most specific scope is silent, the next one governs, and not the rules for every
path. -/
theorem ruleFor_coverage_layeredPolicy :
    prepare layeredPolicy 1 = .ok (build layeredPolicy 1) ∧
      (((build layeredPolicy 1).ruleFor
          (((build layeredPolicy 1).coverage "/api/users").run (.empty 4)).1
          "/api/users" "x").run (.empty 4)).1 = some ⟨"x", .range 1 5, false⟩ := by
  have hprepare : prepare layeredPolicy 1 = .ok (build layeredPolicy 1) :=
    prepare_eq_ok_iff.mpr ⟨rfl, rfl⟩
  have hconsulted : layeredPolicy.consulted = layeredPolicy.scopes :=
    List.mergeSort_of_pairwise (by decide +kernel)
  have hgoverning :
      layeredPolicy.governingRule "/api/users" "x" = some ⟨"x", .range 1 5, false⟩ := by
    unfold Policy.governingRule
    rw [hconsulted]
    rfl
  have hfound := ruleFor_coverage_eq_governingRule hprepare "/api/users" "x" (.empty 4) (.empty 4)
  exact ⟨hprepare, hfound.1.trans hgoverning⟩

end Generation

end QueryGate
