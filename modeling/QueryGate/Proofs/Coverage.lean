import QueryGate.Proofs.Governing

/-!
# Masks of a path

The masks of a path are computed before any rule is looked up, from other tables than the rules.
The main statement is that they say exactly what the policy declares on the path, that no bit is
stored beyond the slots of the names, and that looking a rule up agrees with them: a slot is in the
combined mask exactly when a rule is found for it, so the mask is empty exactly when no name has a
rule. What a scope keeps by name and by slot is the same.
-/

namespace QueryGate

/-! ## Rules by name -/

/-- Of rules added one after the other the last of a name is found, or else the one that was
there. -/
theorem find?_foldl_upsert (later earlier : List Rule) (name : String) :
    (later.foldl upsert earlier).find? (·.name = name) =
      (Rule.lastNamed? later name).or (earlier.find? (·.name = name)) := by
  induction later generalizing earlier with
  | nil => rfl
  | cons rule later ih =>
    rw [List.foldl_cons, ih, Rule.lastNamed?_cons, Option.or_assoc, upsert_eq_alter,
      Keyed.find?_alter fun _ => rfl]
    congr 1
    split <;> rfl

namespace PreparedScope

variable {index : NameIndex} {name : String}

/-- Rules whose names have no slot are left out, and those of other names stay. -/
theorem lastNamed?_indexed (rules : List Rule) (index : NameIndex) (name : String) :
    Rule.lastNamed? (indexed rules index) name =
      (index.slot? name).bind fun _ => Rule.lastNamed? rules name := by
  unfold Rule.lastNamed? indexed
  rw [← List.filter_reverse, List.find?_filter]
  cases hslot : index.slot? name with
  | none =>
    rw [Option.bind_none, List.find?_eq_none]
    intro rule _ hboth
    simp only [decide_eq_true_eq, beq_iff_eq] at hboth
    obtain ⟨hindexed, rfl⟩ := hboth
    rw [hslot] at hindexed
    cases hindexed
  | some slot =>
    rw [Option.bind_some]
    congr 1
    funext rule
    rw [Bool.eq_iff_iff, decide_eq_true_iff, and_iff_right_iff_imp, beq_iff_eq]
    rintro rfl
    rw [hslot]
    rfl

/-- What a scope keeps for a name is what it keeps at the slot of the name. -/
theorem named?_ofScope (scope : Scope) (index : NameIndex) (name : String) :
    (ofScope scope index).named? name =
      (index.slot? name).bind (ofScope scope index).atSlot? := by
  have hnamed : (ofScope scope index).named? name =
      ((indexed scope.params index).foldl upsert []).find? (·.name = name) := by
    unfold named?
    congr 1
  rw [hnamed, find?_foldl_upsert, lastNamed?_indexed]
  cases hslot : index.slot? name with
  | none => rfl
  | some slot =>
    rw [Option.bind_some, Option.bind_some, List.find?_nil, Option.or_none]
    exact (join_slotsOf hslot scope.params).symm

end PreparedScope

/-! ## The most specific scope -/

/-- The first scope, in the order of consultation, that matches a path. -/
def Policy.mostSpecific? (policy : Policy) (path : String) : Option Scope :=
  policy.consulted.find? (Scope.appliesTo path)

/-! ## Masks -/

/-- The masks of a coverage say what a policy declares on a path, and store nothing else. -/
structure Coverage.Describes (coverage : Coverage) (policy : Policy) (index : NameIndex)
    (path : String) : Prop where
  /-- The global mask has the slots of the names that are declared for every path. -/
  global : ∀ name slot, index.slot? name = some slot →
    (coverage.global.get slot = true ↔ ∃ rule ∈ policy.globals, rule.name = name)
  /-- The URL mask has the slots of the names that a matching scope declares. -/
  url : ∀ name slot, index.slot? name = some slot → (coverage.url.get slot = true ↔
    ∃ scope ∈ policy.scopes, scope.appliesTo path = true ∧ ∃ rule ∈ scope.params, rule.name = name)
  /-- The specific mask has the slots of the names that the most specific scope declares. -/
  specific : ∀ name slot, index.slot? name = some slot → (coverage.specific.get slot = true ↔
    ∃ scope, policy.mostSpecific? path = some scope ∧ ∃ rule ∈ scope.params, rule.name = name)
  /-- The slots of the specific mask are slots of the URL mask. -/
  specific_le_url : ∀ slot, coverage.specific.get slot = true → coverage.url.get slot = true
  /-- The combined mask is the union of the others. -/
  combined_eq : coverage.combined = (coverage.global.union coverage.url).union coverage.specific
  /-- The combined mask has the slots that any of the others has. -/
  combined : ∀ slot, coverage.combined.get slot = true ↔ coverage.global.get slot = true ∨
    coverage.url.get slot = true ∨ coverage.specific.get slot = true
  /-- Every mask is a set of slots of names, with no bit stored beyond them. -/
  fits : ∀ mask ∈ [coverage.global, coverage.url, coverage.specific, coverage.combined],
    mask.Fits index.size

namespace Generation

variable {policy : Policy} {path name : String} {slot : Nat}

/-- The specific mask of a path holds the slot of a name if the most specific scope declares the
name. -/
theorem get_specific_build (hslot : (indexOf policy).slot? name = some slot) (number : Nat)
    (path : String) : ((build policy number).coverageAt path).specific.get slot =
      (policy.mostSpecific? path).any (Scope.declares name) := by
  rw [(framed_build policy number).get_specific, scopes_build, List.find?_map, Option.any_map]
  change Option.any _ (policy.mostSpecific? path) = _
  congr 1
  funext scope
  exact PreparedScope.get_maskOf hslot scope.params

/-- The masks of a path describe the policy. -/
theorem describes_build (policy : Policy) (number : Nat) (path : String) :
    ((build policy number).coverageAt path).Describes policy (indexOf policy) path where
  global name slot hslot := by
    rw [get_global_build hslot, Rule.declares_iff]
  url name slot hslot := by
    rw [get_url_build hslot, List.any_eq_true]
    simp only [Bool.and_eq_true, Scope.declares, Rule.declares_iff]
  specific name slot hslot := by
    rw [get_specific_build hslot, Option.any_eq_true]
    simp only [Scope.declares, Rule.declares_iff]
  specific_le_url slot := (framed_build policy number).get_url_of_specific
  combined_eq := rfl
  combined slot := by
    rw [(framed_build policy number).get_combined, Bool.or_eq_true, Bool.or_eq_true, or_assoc]
  fits := by
    have hframed := framed_build policy number
    simp only [List.mem_cons, List.not_mem_nil, or_false, forall_eq_or_imp, forall_eq]
    exact ⟨hframed.globalMask, hframed.fits_url path, hframed.fits_specific path,
      hframed.fits_combined path⟩

/-- A slot is in the combined mask of a path exactly when a rule is found for it. -/
theorem isSome_ruleUnder_build (policy : Policy) (number : Nat) (path : String) (slot : Nat) :
    ((build policy number).ruleUnder ((build policy number).coverageAt path) path slot).isSome =
      ((build policy number).coverageAt path).combined.get slot := by
  have hframed := framed_build policy number
  by_cases hlt : slot < (indexOf policy).size
  · obtain ⟨name, hslot⟩ := NameIndex.exists_name_of_lt hlt
    rw [hframed.ruleUnder_coverageAt, governingSlot_build hslot, get_combined_build hslot,
      Policy.isSome_governingRule]
  · have hnone := (hframed.fits_combined path).get_of_le (Nat.not_lt.mp hlt)
    rw [hframed.ruleUnder_of_get_combined hnone]
    exact hnone.symm

/-- Masks and rules agree, whatever expressions are kept. The masks of a path describe the policy; a
slot is in the combined mask exactly when a rule is found for it, so the mask is empty exactly when
no name has a rule on the path; and every scope keeps one rule for a name and for its slot. -/
theorem coverage_agrees_with_rules {policy : Policy} {number : Nat} {generation : Generation}
    (hprepare : prepare policy number = .ok generation) (path : String) (kept : GlobStore) :
    let coverage := ((generation.coverage path).run kept).1
    coverage.Describes policy generation.index path ∧
    (∀ slot later, coverage.combined.get slot =
      ((generation.ruleAtSlot coverage path slot).run later).1.isSome) ∧
    (coverage.combined.isEmpty = true ↔
      ∀ name later, ((generation.ruleFor coverage path name).run later).1 = none) ∧
    ∀ scope ∈ generation.scopes, ∀ name,
      scope.named? name = (generation.index.slot? name).bind scope.atSlot? := by
  obtain ⟨_, rfl⟩ := prepare_eq_ok_iff.mp hprepare
  intro coverage
  have hcoverage : coverage = (build policy number).coverageAt path :=
    (build policy number).yields_coverage path kept
  rw [hcoverage]
  refine ⟨describes_build policy number path, fun slot later => ?_, ?_, ?_⟩
  · rw [(build policy number).yields_ruleAtSlot _ path slot later, isSome_ruleUnder_build]
  · have hrule (name : String) (later : GlobStore) :
        (((build policy number).ruleFor ((build policy number).coverageAt path) path
          name).run later).1 = policy.governingRule path name := by
      rw [(build policy number).yields_ruleFor path name later, ruleNamed_build]
    simp only [isEmpty_combined_build_iff, hrule, ← Policy.isSome_governingRule,
      Option.isSome_eq_false_iff, Option.isNone_iff_eq_none]
    exact ⟨fun h name _ => h name, fun h name => h name kept⟩
  · intro scope hmem name
    rw [scopes_build] at hmem
    obtain ⟨scope, -, rfl⟩ := List.mem_map.mp hmem
    exact PreparedScope.named?_ofScope scope (indexOf policy) name

/-- On a path with layers, the masks describe them all, and a name has a rule. -/
theorem coverage_agrees_with_rules_layeredPolicy :
    prepare layeredPolicy 1 = .ok (build layeredPolicy 1) ∧
      let coverage := (((build layeredPolicy 1).coverage "/api/users").run (.empty 4)).1
      coverage.Describes layeredPolicy (indexOf layeredPolicy) "/api/users" ∧
        ∃ name later,
          (((build layeredPolicy 1).ruleFor coverage "/api/users" name).run later).1 ≠ none := by
  have hprepare : prepare layeredPolicy 1 = .ok (build layeredPolicy 1) :=
    prepare_eq_ok_iff.mpr ⟨rfl, rfl⟩
  obtain ⟨hdescribes, -, hempty, -⟩ :=
    coverage_agrees_with_rules hprepare "/api/users" (.empty 4)
  refine ⟨hprepare, hdescribes, ?_⟩
  have hslot : (indexOf layeredPolicy).slot? "x" = some 0 := by
    decide
  have hglobal := (hdescribes.global "x" 0 hslot).mpr ⟨_, List.mem_cons_self, rfl⟩
  have hcombined := (hdescribes.combined 0).mpr (.inl hglobal)
  by_contra hnone
  push Not at hnone
  rw [Mask.get_of_isEmpty (hempty.mpr hnone) 0] at hcombined
  cases hcombined

end Generation

end QueryGate
