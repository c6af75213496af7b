import QueryGate.Proofs.Declaration
import QueryGate.Proofs.Resolution

/-!
# What governs a name, described without an order

Where every pattern and every name of a scope is declared once, the rule that governs a name is
described by membership alone: it belongs to the matching scope that precedes every other matching
scope with the name, or to the rules for every path where no matching scope has the name. Which
names are declared on a path in turn decides whether every parameter is accepted there and whether
any parameter can be accepted at all.
-/

namespace QueryGate

/-- Two scopes have one pattern and the same rules, in any order. -/
structure Scope.Rearranges (scope other : Scope) : Prop where
  /-- The pattern is the same. -/
  pattern_eq : scope.pattern = other.pattern
  /-- The rules are the same. -/
  params_perm : scope.params.Perm other.params

namespace Scope.Rearranges

variable {scope other : Scope}

/-- A scope has its own pattern and rules. -/
theorem refl (scope : Scope) : scope.Rearranges scope :=
  ⟨rfl, .refl scope.params⟩

/-- Rearranging goes both ways. -/
theorem symm (h : scope.Rearranges other) : other.Rearranges scope :=
  ⟨h.pattern_eq.symm, h.params_perm.symm⟩

/-- The pattern is that of one text. -/
theorem toPattern_eq (h : scope.Rearranges other) : scope.toPattern = other.toPattern :=
  congrArg Pattern.ofText h.pattern_eq

/-- Both scopes match the same paths. -/
theorem appliesTo_eq (h : scope.Rearranges other) (path : String) :
    scope.appliesTo path = other.appliesTo path :=
  congrArg (·.matchesPath path) h.toPattern_eq

/-- Both scopes declare the same names. -/
theorem declares_eq (h : scope.Rearranges other) (name : String) :
    scope.declares name = other.declares name :=
  h.params_perm.any_eq

end Scope.Rearranges

namespace Policy

variable {policy other : Policy} {path name : String}

/-! ## The scope that decides -/

/-- A scope decides about a name on a path: it matches the path, declares the name, and precedes all
scopes that do both. -/
structure Decides (policy : Policy) (path name : String) (scope : Scope) : Prop where
  /-- The policy has the scope. -/
  mem : scope ∈ policy.scopes
  /-- The scope matches the path. -/
  applies : scope.appliesTo path = true
  /-- The scope declares the name. -/
  declares : scope.declares name = true
  /-- The scope precedes all others that could decide. -/
  first : ∀ rival ∈ policy.scopes, rival.appliesTo path = true → rival.declares name = true →
    scope.Precedes rival

/-- A rule governs a name on a path. -/
inductive Governs (policy : Policy) (path name : String) (rule : Rule) : Prop where
  /-- It is the rule for the name in the scope that decides. -/
  | inScope {scope : Scope} (hdecides : policy.Decides path name scope)
      (hmem : rule ∈ scope.params) (hname : rule.name = name)
  /-- No matching scope declares the name, and it is the rule for the name on every path. -/
  | everywhere (hnowhere : ∀ scope ∈ policy.scopes, scope.appliesTo path = true →
      scope.declares name = false) (hmem : rule ∈ policy.globals) (hname : rule.name = name)

/-- The search for a scope finds one that decides. -/
theorem decides_of_find? {scope : Scope} (h : policy.consulted.find?
    (fun scope => scope.appliesTo path && scope.declares name) = some scope) :
    policy.Decides path name scope := by
  have hboth := List.find?_some h
  obtain ⟨happlies, hdeclares⟩ := (Bool.and_eq_true _ _).mp hboth
  refine ⟨mem_consulted.mp (List.mem_of_find?_eq_some h), happlies, hdeclares, ?_⟩
  intro rival hmem hrivalApplies hrivalDeclares
  rcases eq_or_rel_of_find? (pairwise_consulted policy) h (mem_consulted.mpr hmem)
    (by rw [hrivalApplies, hrivalDeclares]; rfl) with rfl | hprecedes
  · exact Pattern.Precedes.refl _
  · exact hprecedes

/-- Where patterns are distinct, only one scope decides. -/
theorem Distinct.eq_of_decides (h : policy.Distinct) {scope rival : Scope}
    (hscope : policy.Decides path name scope) (hrival : policy.Decides path name rival) :
    scope = rival := by
  have hthere := hscope.first rival hrival.mem hrival.applies hrival.declares
  have hback := hrival.first scope hscope.mem hscope.applies hscope.declares
  exact List.inj_on_of_nodup_map h.patterns hscope.mem hrival.mem (hthere.text_eq hback)

/-- Where patterns are distinct, the search for a scope finds the one that decides. -/
theorem Distinct.find?_eq_some_iff (h : policy.Distinct) {scope : Scope} :
    policy.consulted.find? (fun scope => scope.appliesTo path && scope.declares name) =
      some scope ↔ policy.Decides path name scope := by
  refine ⟨decides_of_find?, ?_⟩
  intro hdecides
  obtain ⟨found, hfind⟩ :=
    exists_find?_of_declares hdecides.mem hdecides.applies hdecides.declares
  rw [hfind, h.eq_of_decides hdecides (decides_of_find? hfind)]

/-- The search for a scope fails where no matching scope declares the name. -/
theorem find?_eq_none_iff :
    policy.consulted.find? (fun scope => scope.appliesTo path && scope.declares name) = none ↔
      ∀ scope ∈ policy.scopes, scope.appliesTo path = true → scope.declares name = false := by
  rw [List.find?_eq_none]
  constructor
  · intro h scope hmem happlies
    have hno := h scope (mem_consulted.mpr hmem)
    rw [happlies, Bool.true_and, Bool.not_eq_true] at hno
    exact hno
  · intro h scope hmem hboth
    obtain ⟨happlies, hdeclares⟩ := (Bool.and_eq_true _ _).mp hboth
    rw [h scope (mem_consulted.mp hmem) happlies] at hdeclares
    cases hdeclares

/-- Where nothing is declared twice, the search finds exactly the rule that governs the name. -/
theorem Distinct.governingRule_eq_some_iff (h : policy.Distinct) {rule : Rule} :
    policy.governingRule path name = some rule ↔ policy.Governs path name rule := by
  unfold governingRule
  constructor
  · intro hfound
    split at hfound
    · next scope hfind =>
      have hdecides := decides_of_find? hfind
      obtain ⟨hmem, hname⟩ :=
        (Rule.lastNamed?_eq_some_iff (h.params scope hdecides.mem)).mp hfound
      exact .inScope hdecides hmem hname
    · next hnone =>
      obtain ⟨hmem, hname⟩ := (Rule.lastNamed?_eq_some_iff h.globals).mp hfound
      exact .everywhere (find?_eq_none_iff.mp hnone) hmem hname
  · intro hgoverns
    cases hgoverns with
    | inScope hdecides hmem hname =>
      rw [h.find?_eq_some_iff.mpr hdecides]
      exact (Rule.lastNamed?_eq_some_iff (h.params _ hdecides.mem)).mpr ⟨hmem, hname⟩
    | everywhere hnowhere hmem hname =>
      rw [find?_eq_none_iff.mpr hnowhere]
      exact (Rule.lastNamed?_eq_some_iff h.globals).mpr ⟨hmem, hname⟩

/-! ## Policies that mirror each other -/

/-- Every rule that counts on a path has its like in another policy, and every matching scope of
either policy has its like in the other one. -/
structure MirrorsOn (policy other : Policy) (path : String) : Prop where
  /-- The rules for every path are the same. -/
  globals : ∀ rule, rule ∈ policy.globals ↔ rule ∈ other.globals
  /-- Every matching scope has its like in the other policy. -/
  scopes : ∀ scope ∈ policy.scopes, scope.appliesTo path = true →
    ∃ image ∈ other.scopes, scope.Rearranges image
  /-- Every matching scope of the other policy has its like. -/
  images : ∀ image ∈ other.scopes, image.appliesTo path = true →
    ∃ scope ∈ policy.scopes, image.Rearranges scope

/-- Mirroring goes both ways. -/
theorem MirrorsOn.symm (h : policy.MirrorsOn other path) : other.MirrorsOn policy path :=
  ⟨fun rule => (h.globals rule).symm, h.images, h.scopes⟩

/-- What governs a name on a path governs it in a mirroring policy. -/
theorem MirrorsOn.governs (h : policy.MirrorsOn other path) {rule : Rule}
    (hgoverns : policy.Governs path name rule) : other.Governs path name rule := by
  cases hgoverns with
  | @inScope scope hdecides hmem hname =>
    obtain ⟨image, himage, hlike⟩ := h.scopes scope hdecides.mem hdecides.applies
    refine .inScope ⟨himage, ?_, ?_, ?_⟩ (hlike.params_perm.mem_iff.mp hmem) hname
    · rw [← hlike.appliesTo_eq]
      exact hdecides.applies
    · rw [← hlike.declares_eq]
      exact hdecides.declares
    · -- A rival has its like in the policy, and that one is preceded already.
      intro rival hrival happlies hdeclares
      obtain ⟨original, horiginal, hback⟩ := h.images rival hrival happlies
      rw [hback.appliesTo_eq] at happlies
      rw [hback.declares_eq] at hdeclares
      have hfirst : scope.toPattern.Precedes original.toPattern :=
        hdecides.first original horiginal happlies hdeclares
      rw [hlike.toPattern_eq, ← hback.toPattern_eq] at hfirst
      exact hfirst
  | everywhere hnowhere hmem hname =>
    refine .everywhere ?_ ((h.globals rule).mp hmem) hname
    intro image himage happlies
    obtain ⟨scope, hscope, hback⟩ := h.images image himage happlies
    rw [hback.appliesTo_eq] at happlies
    rw [hback.declares_eq]
    exact hnowhere scope hscope happlies

/-- Where nothing is declared twice, policies that mirror each other on a path have the same rule
for every name there. -/
theorem MirrorsOn.governingRule_eq (h : policy.MirrorsOn other path) (hpolicy : policy.Distinct)
    (hother : other.Distinct) : policy.governingRule path = other.governingRule path := by
  funext name
  apply Option.ext
  intro rule
  rw [hpolicy.governingRule_eq_some_iff, hother.governingRule_eq_some_iff]
  exact ⟨h.governs, h.symm.governs⟩

/-! ## Declared names -/

/-- Whether a name is declared on a path: by a matching scope or for every path. -/
def declaresOn (policy : Policy) (path name : String) : Bool :=
  (policy.scopes.any fun scope => scope.appliesTo path && scope.declares name) ||
    Rule.declares policy.globals name

/-- A name is declared on a path if a matching scope or a rule for every path declares it. -/
theorem declaresOn_iff :
    policy.declaresOn path name = true ↔
      (∃ scope ∈ policy.scopes, scope.appliesTo path = true ∧ scope.declares name = true) ∨
        Rule.declares policy.globals name = true := by
  unfold declaresOn
  rw [Bool.or_eq_true, List.any_eq_true]
  simp only [Bool.and_eq_true]

/-- A name is declared on a path unless neither a matching scope nor the rules for every path
declare it. -/
theorem declaresOn_eq_false_iff :
    policy.declaresOn path name = false ↔
      (∀ scope ∈ policy.scopes, scope.appliesTo path = true → scope.declares name = false) ∧
        Rule.declares policy.globals name = false := by
  unfold declaresOn
  rw [Bool.or_eq_false_iff, List.any_eq_false]
  simp only [Bool.and_eq_true, not_and, Bool.not_eq_true]

/-- A rule governs exactly the names that are declared. -/
theorem isSome_governingRule (policy : Policy) (path name : String) :
    (policy.governingRule path name).isSome = policy.declaresOn path name := by
  have hany : (policy.consulted.find? fun scope =>
      scope.appliesTo path && scope.declares name).isSome =
        policy.scopes.any fun scope => scope.appliesTo path && scope.declares name := by
    rw [List.isSome_find?, policy.perm_consulted.any_eq]
  unfold governingRule declaresOn
  rw [← hany]
  split
  · next scope hfind =>
    have hdeclares : Rule.declares scope.params name = true := (decides_of_find? hfind).declares
    rw [hfind, Rule.isSome_lastNamed?, hdeclares]
    rfl
  · next hnone =>
    rw [hnone, Rule.isSome_lastNamed?]
    rfl

/-- Where the same rule governs a name, the name is declared by both policies or by neither. -/
theorem declaresOn_eq_of_governingRule_eq
    (h : policy.governingRule path name = other.governingRule path name) :
    policy.declaresOn path name = other.declaresOn path name := by
  rw [← isSome_governingRule, ← isSome_governingRule, h]

end Policy

/-! ## Coverage of a path, by names -/

namespace Generation

variable {policy : Policy} {path name : String} {slot : Nat}

/-- The global mask of a path holds the slot of a name if the name is declared for every path. -/
theorem get_global_build (hslot : (indexOf policy).slot? name = some slot) (number : Nat)
    (path : String) : ((build policy number).coverageAt path).global.get slot =
      Rule.declares policy.globals name :=
  PreparedScope.get_maskOf hslot policy.globals

/-- The URL mask of a path holds the slot of a name if a matching scope declares the name. -/
theorem get_url_build (hslot : (indexOf policy).slot? name = some slot) (number : Nat)
    (path : String) : ((build policy number).coverageAt path).url.get slot =
      policy.scopes.any fun scope => scope.appliesTo path && scope.declares name := by
  rw [(framed_build policy number).get_url, scopes_build, List.any_map,
    policy.perm_consulted.any_eq]
  congr 1
  funext scope
  exact congrArg (scope.appliesTo path && ·) (PreparedScope.get_maskOf hslot scope.params)

/-- The most specific scope is one of the matching scopes. -/
theorem Framed.get_url_of_specific {generation : Generation} (h : generation.Framed)
    (hspecific : (generation.coverageAt path).specific.get slot = true) :
    (generation.coverageAt path).url.get slot = true := by
  rw [h.get_specific] at hspecific
  obtain ⟨scope, hfind, hdeclares⟩ := (Option.any_eq_true _ _).mp hspecific
  rw [h.get_url, List.any_eq_true]
  refine ⟨scope, List.mem_of_find?_eq_some hfind, ?_⟩
  rw [List.find?_some hfind, hdeclares]
  rfl

/-- The combined mask of a path holds the slot of a name if the name is declared on the path. -/
theorem get_combined_build (hslot : (indexOf policy).slot? name = some slot) (number : Nat)
    (path : String) :
    ((build policy number).coverageAt path).combined.get slot = policy.declaresOn path name := by
  have hframed := framed_build policy number
  have hspecific : ((build policy number).coverageAt path).specific.get slot = true → _ :=
    hframed.get_url_of_specific
  rw [get_url_build hslot] at hspecific
  rw [hframed.get_combined, get_global_build hslot, get_url_build hslot, Policy.declaresOn,
    Bool.or_comm (Rule.declares _ _)]
  cases hmost : ((build policy number).coverageAt path).specific.get slot with
  | false => rw [Bool.or_false]
  | true => rw [hspecific hmost, Bool.true_or, Bool.true_or]

/-- A name without slot is not declared. -/
theorem declaresOn_of_slot?_eq_none (hslot : (indexOf policy).slot? name = none) (path : String) :
    policy.declaresOn path name = false := by
  rw [← Policy.isSome_governingRule, governingRule_of_slot?_eq_none hslot]
  rfl

/-- Every parameter is accepted on a path where the name is declared that stands for it. -/
theorem acceptsAll_build (policy : Policy) (number : Nat) (path : String) :
    (build policy number).acceptsAll ((build policy number).coverageAt path) =
      policy.declaresOn path acceptAllName := by
  change ((indexOf policy).slot? acceptAllName).any _ = _
  cases hslot : (indexOf policy).slot? acceptAllName with
  | none => exact (declaresOn_of_slot?_eq_none hslot path).symm
  | some slot => exact get_combined_build hslot number path

/-- Whatever expressions are kept, every parameter is accepted on a path where the name is declared
that stands for it. -/
theorem acceptsAll_coverage_build (policy : Policy) (number : Nat) (path : String)
    (kept : GlobStore) :
    (build policy number).acceptsAll (((build policy number).coverage path).run kept).1 =
      policy.declaresOn path acceptAllName := by
  rw [(build policy number).yields_coverage path kept, acceptsAll_build]

/-- Whatever expressions are kept, a name has the rule that governs it. -/
theorem ruleFor_coverage_build (policy : Policy) (number : Nat) (path name : String)
    (kept later : GlobStore) :
    (((build policy number).ruleFor (((build policy number).coverage path).run kept).1 path
      name).run later).1 = policy.governingRule path name := by
  rw [(build policy number).yields_coverage path kept,
    (build policy number).yields_ruleFor path name later, ruleNamed_build]

/-- The combined mask of a path is empty where no name is declared. -/
theorem isEmpty_combined_build_iff (policy : Policy) (number : Nat) (path : String) :
    ((build policy number).coverageAt path).combined.isEmpty = true ↔
      ∀ name, policy.declaresOn path name = false := by
  rw [((framed_build policy number).fits_combined path).isEmpty_iff]
  constructor
  · intro hempty name
    cases hslot : (indexOf policy).slot? name with
    | none => exact declaresOn_of_slot?_eq_none hslot path
    | some slot =>
      rw [← get_combined_build hslot number path]
      exact hempty slot
  · intro hnone slot
    by_cases hlt : slot < (indexOf policy).size
    · obtain ⟨name, hslot⟩ := NameIndex.exists_name_of_lt hlt
      rw [get_combined_build hslot number path]
      exact hnone name
    · exact ((framed_build policy number).fits_combined path).get_of_le (Nat.not_lt.mp hlt)

end Generation

end QueryGate
