import Mathlib.Data.List.Perm.Basic
import QueryGate.Proofs.Dependence

/-!
# The order of declaration

Two policies that declare the same rules in another order give every name another slot, every mask
another layout and the scopes another order before they are sorted. None of this can be observed:
both pass their checks or neither does, their patterns are consulted in one order, and every name
has the same rule on every path.
-/

namespace QueryGate

/-! ## Checks do not depend on an order -/

/-- Rules in another order pass the check for company too. -/
theorem Rule.checkAlone_of_perm {rules others : List Rule} (h : rules.Perm others)
    {scope otherScope : String} (halone : Rule.checkAlone rules scope = .ok ()) :
    Rule.checkAlone others otherScope = .ok () := by
  rw [Rule.checkAlone_eq_ok_iff] at halone ⊢
  intro rule hmem hname
  rw [← h.length_eq]
  exact halone rule (h.mem_iff.mpr hmem) hname

/-- A scope with its rules in another order passes its check too. -/
theorem Scope.Rearranges.check {scope other : Scope} (h : scope.Rearranges other)
    (hcheck : scope.check = .ok ()) : other.check = .ok () := by
  obtain ⟨hpattern, halone, hparams⟩ := Scope.check_eq_ok_iff.mp hcheck
  refine Scope.check_eq_ok_iff.mpr ⟨?_, Rule.checkAlone_of_perm h.params_perm halone, ?_⟩
  · rw [← h.pattern_eq]
    exact hpattern
  · intro rule hmem
    exact hparams rule (h.params_perm.mem_iff.mpr hmem)

namespace Policy

/-- Two policies declare the same rules for every path and the same scopes, all in any order. -/
structure Rearranges (policy other : Policy) : Prop where
  /-- The rules for every path are the same. -/
  globals_perm : policy.globals.Perm other.globals
  /-- In the order of the other policy, each scope has the rules of the other policy's scope. -/
  scopes_perm : ∃ scopes, policy.scopes.Perm scopes ∧
    List.Forall₂ Scope.Rearranges scopes other.scopes

namespace Rearranges

variable {policy other : Policy}

/-- Rearranging goes both ways. -/
theorem symm (h : policy.Rearranges other) : other.Rearranges policy := by
  obtain ⟨scopes, hperm, hlike⟩ := h.scopes_perm
  -- The same two steps the other way round: first each scope its image, then another order.
  obtain ⟨images, himages, himagesPerm⟩ := List.perm_comp_forall₂ hperm hlike
  have hback : List.Forall₂ (flip Scope.Rearranges) policy.scopes images :=
    himages.imp fun _ _ hscope => hscope.symm
  exact ⟨h.globals_perm.symm, images, himagesPerm.symm, hback.flip⟩

/-- Every scope is a scope of the other policy, with its rules in any order. -/
theorem exists_image (h : policy.Rearranges other) {scope : Scope} (hmem : scope ∈ policy.scopes) :
    ∃ image ∈ other.scopes, scope.Rearranges image := by
  obtain ⟨scopes, hperm, hlike⟩ := h.scopes_perm
  obtain ⟨place, hplace, rfl⟩ := List.getElem_of_mem (hperm.mem_iff.mp hmem)
  have hother : place < other.scopes.length := hlike.length_eq ▸ hplace
  exact ⟨other.scopes[place], List.getElem_mem hother, hlike.get hplace hother⟩

/-- The patterns are the same. -/
theorem perm_patterns (h : policy.Rearranges other) :
    (policy.scopes.map Scope.pattern).Perm (other.scopes.map Scope.pattern) := by
  obtain ⟨scopes, hperm, hlike⟩ := h.scopes_perm
  have hsame : scopes.map Scope.pattern = other.scopes.map Scope.pattern := by
    rw [← List.forall₂_eq_eq_eq, List.forall₂_map_left_iff, List.forall₂_map_right_iff]
    exact hlike.imp fun _ _ hscope => hscope.pattern_eq
  exact hsame ▸ hperm.map Scope.pattern

/-- Another order repeats nothing. -/
theorem distinct (h : policy.Rearranges other) (hdistinct : policy.Distinct) : other.Distinct := by
  refine ⟨h.perm_patterns.nodup_iff.mp hdistinct.patterns,
    (h.globals_perm.map Rule.name).nodup_iff.mp hdistinct.globals, ?_⟩
  intro image himage
  obtain ⟨scope, hmem, hlike⟩ := h.symm.exists_image himage
  exact (hlike.params_perm.map Rule.name).nodup_iff.mpr (hdistinct.params scope hmem)

/-- Another order passes the checks too. -/
theorem check (h : policy.Rearranges other) (hcheck : policy.check = .ok ()) :
    other.check = .ok () := by
  obtain ⟨halone, hglobals, hscopes⟩ := Policy.check_eq_ok_iff.mp hcheck
  refine Policy.check_eq_ok_iff.mpr ⟨Rule.checkAlone_of_perm h.globals_perm halone, ?_, ?_⟩
  · intro rule hmem
    exact hglobals rule (h.globals_perm.mem_iff.mpr hmem)
  · intro image himage
    obtain ⟨scope, hmem, hlike⟩ := h.symm.exists_image himage
    exact hlike.symm.check (hscopes scope hmem)

/-- Policies that differ in order only mirror each other on every path. -/
theorem mirrorsOn (h : policy.Rearranges other) (path : String) : policy.MirrorsOn other path :=
  ⟨fun _ => h.globals_perm.mem_iff, fun _ hmem _ => h.exists_image hmem,
    fun _ hmem _ => h.symm.exists_image hmem⟩

end Rearranges

/-- What can be prepared in one order can be prepared in another. -/
theorem Rearranges.exists_prepare {policy other : Policy} (h : policy.Rearranges other)
    {number : Nat} (otherNumber : Nat)
    (hprepared : ∃ rules, Generation.prepare policy number = .ok rules) :
    ∃ rules, Generation.prepare other otherNumber = .ok rules := by
  obtain ⟨rules, hprepare⟩ := hprepared
  have hcheck := h.check (Generation.prepare_eq_ok_iff.mp hprepare).1
  exact ⟨_, Generation.prepare_eq_ok_iff.mpr ⟨hcheck, rfl⟩⟩

/-! ## The order of patterns -/

/-- The patterns of a policy from the most to the least specific one. -/
def consultedPatterns (policy : Policy) : List Pattern :=
  policy.consulted.map Scope.toPattern

/-- Each pattern is consulted before those that it precedes. -/
theorem pairwise_consultedPatterns (policy : Policy) :
    policy.consultedPatterns.Pairwise Pattern.Precedes :=
  List.pairwise_map.mpr (pairwise_consulted policy)

/-- The patterns are consulted once each. -/
theorem perm_consultedPatterns (policy : Policy) :
    policy.consultedPatterns.Perm ((policy.scopes.map Scope.pattern).map Pattern.ofText) := by
  rw [List.map_map]
  exact policy.perm_consulted.map _

/-- The text of a consulted pattern determines the pattern. -/
theorem eq_ofText_of_mem_consultedPatterns {policy : Policy} {pattern : Pattern}
    (h : pattern ∈ policy.consultedPatterns) : pattern = Pattern.ofText pattern.text := by
  obtain ⟨scope, _, rfl⟩ := List.mem_map.mp h
  rfl

/-- Patterns have one order, whatever the order of their declaration: two that precede each other
have one text, and the text determines the pattern. -/
theorem Rearranges.consultedPatterns_eq {policy other : Policy} (h : policy.Rearranges other) :
    policy.consultedPatterns = other.consultedPatterns := by
  have hperm : policy.consultedPatterns.Perm other.consultedPatterns :=
    (perm_consultedPatterns policy).trans
      ((h.perm_patterns.map Pattern.ofText).trans (perm_consultedPatterns other).symm)
  refine List.Perm.eq_of_pairwise ?_ (pairwise_consultedPatterns policy)
    (pairwise_consultedPatterns other) hperm
  intro p q hp hq hpq hqp
  rw [eq_ofText_of_mem_consultedPatterns hp, eq_ofText_of_mem_consultedPatterns hq,
    hpq.text_eq hqp]

end Policy

/-! ## What cannot be observed -/

/-- Gates with the same limits for queries and the same callback agree on a path once they have
installed policies in which the same rule governs each name there. -/
theorem Gate.agreesOn_of_install {gate other published otherPublished : Gate}
    {policy otherPolicy : Policy} {path : String}
    (hlength : gate.limits.maxUrlLength = other.limits.maxUrlLength)
    (hparams : gate.limits.maxParams = other.limits.maxParams)
    (hcallback : gate.callback = other.callback)
    (hgoverning : policy.governingRule (Path.forMatching path) =
      otherPolicy.governingRule (Path.forMatching path))
    (hinstall : gate.install policy = (.ok (), published))
    (hother : other.install otherPolicy = (.ok (), otherPublished)) :
    published.AgreesOn otherPublished path := by
  obtain ⟨hopen, rules, _, rfl⟩ := install_eq_ok_iff.mp hinstall
  obtain ⟨hotherOpen, otherRules, _, rfl⟩ := install_eq_ok_iff.mp hother
  exact ⟨hopen.trans hotherOpen.symm, hlength, hparams, hcallback, hgoverning⟩

namespace Generation

open QueryGate.Gate (new)

/-- The patterns of a generation are those of its policy, in the order of consultation. -/
theorem map_pattern_build (policy : Policy) (number : Nat) :
    (build policy number).scopes.map PreparedScope.pattern = policy.consultedPatterns := by
  rw [scopes_build, List.map_map]
  rfl

/-- The order of declaration cannot be observed. Two policies that name nothing twice and differ in
order only can both be prepared or neither of them. When they are, their patterns have the same
order, every name has the same rule on every path, every parameter is accepted on the same paths,
whatever expressions are kept, and gates that have put them into force give the same answer to
every question. -/
theorem declaration_order_unobservable {policy other : Policy} (hdistinct : policy.Distinct)
    (h : policy.Rearranges other) (number otherNumber : Nat) :
    ((∃ rules, prepare policy number = .ok rules) ↔
      ∃ rules, prepare other otherNumber = .ok rules) ∧
    (∀ rules otherRules, prepare policy number = .ok rules →
      prepare other otherNumber = .ok otherRules →
      rules.scopes.map PreparedScope.pattern = otherRules.scopes.map PreparedScope.pattern ∧
      ∀ (path : String) (kept otherKept : GlobStore),
        rules.acceptsAll ((rules.coverage path).run kept).1 =
          otherRules.acceptsAll ((otherRules.coverage path).run otherKept).1 ∧
        ∀ (name : String) (later otherLater : GlobStore),
          ((rules.ruleFor ((rules.coverage path).run kept).1 path name).run later).1 =
            ((otherRules.ruleFor ((otherRules.coverage path).run otherKept).1 path name).run
              otherLater).1) ∧
    ∀ (limits otherLimits : Limits) (plugins otherPlugins : List Plugin)
      (operations otherOperations : List Gate.Operation)
      (questions otherQuestions : List Gate.Question),
      let gate := (new limits plugins).after operations
      let otherGate := (new otherLimits otherPlugins).after otherOperations
      limits.maxUrlLength = otherLimits.maxUrlLength →
      limits.maxParams = otherLimits.maxParams → gate.callback = otherGate.callback →
      ∀ published otherPublished, gate.install policy = (.ok (), published) →
        otherGate.install other = (.ok (), otherPublished) →
        ∀ question, ((published.afterAsking questions).ask question).1 =
          ((otherPublished.afterAsking otherQuestions).ask question).1 := by
  have hother := h.distinct hdistinct
  have hgoverning : ∀ path, policy.governingRule path = other.governingRule path := fun path =>
    (h.mirrorsOn path).governingRule_eq hdistinct hother
  refine ⟨⟨h.exists_prepare otherNumber, h.symm.exists_prepare number⟩, ?_, ?_⟩
  · intro rules otherRules hprepare hotherPrepare
    obtain ⟨_, rfl⟩ := prepare_eq_ok_iff.mp hprepare
    obtain ⟨_, rfl⟩ := prepare_eq_ok_iff.mp hotherPrepare
    refine ⟨?_, fun path kept otherKept => ⟨?_, fun name later otherLater => ?_⟩⟩
    · rw [map_pattern_build, map_pattern_build, h.consultedPatterns_eq]
    · rw [acceptsAll_coverage_build, acceptsAll_coverage_build]
      exact Policy.declaresOn_eq_of_governingRule_eq (congrFun (hgoverning path) acceptAllName)
    · rw [ruleFor_coverage_build, ruleFor_coverage_build, hgoverning path]
  · intro limits otherLimits plugins otherPlugins operations otherOperations questions
      otherQuestions gate otherGate hlength hparams hcallback published otherPublished hinstall
      hotherInstall question
    have hsound : gate.Sound := (Gate.sound_new limits plugins).after operations
    have hotherSound : otherGate.Sound :=
      (Gate.sound_new otherLimits otherPlugins).after otherOperations
    have hlimits : gate.limits = limits := (new limits plugins).limits_after operations
    have hotherLimits : otherGate.limits = otherLimits :=
      (new otherLimits otherPlugins).limits_after otherOperations
    rw [← hlimits, ← hotherLimits] at hlength hparams
    have hagrees : published.AgreesOn otherPublished question.path :=
      Gate.agreesOn_of_install hlength hparams hcallback (hgoverning _) hinstall hotherInstall
    exact hagrees.fst_ask_afterAsking (hsound.install hdistinct hinstall)
      (hotherSound.install hother hotherInstall) questions otherQuestions

/-- A policy with rules for every path and two scopes. -/
def shopPolicy : Policy where
  globals := [⟨"lang", .any, false⟩, ⟨"page", .range 1 9, false⟩]
  scopes := [⟨"/shop/*", [⟨"item", .any, false⟩, ⟨"page", .range 1 3, false⟩]⟩,
    ⟨"/shop/cart", [⟨"coupon", .keyOnly, false⟩]⟩]

/-- The same rules and scopes, each declared in the opposite order. -/
def reversedShopPolicy : Policy where
  globals := [⟨"page", .range 1 9, false⟩, ⟨"lang", .any, false⟩]
  scopes := [⟨"/shop/cart", [⟨"coupon", .keyOnly, false⟩]⟩,
    ⟨"/shop/*", [⟨"page", .range 1 3, false⟩, ⟨"item", .any, false⟩]⟩]

/-- Declared in the opposite order, a name has another slot, and gates filter alike. -/
theorem declaration_order_unobservable_shop :
    let gate := ((new {} []).install shopPolicy).2
    let other := ((new {} []).install reversedShopPolicy).2
    let url := "/shop/cart?page=7&item=3&lang=en&size=1"
    (shopPolicy.Distinct ∧ shopPolicy.Rearranges reversedShopPolicy) ∧
      (indexOf shopPolicy).slot? "lang" = some 0 ∧
      (indexOf reversedShopPolicy).slot? "lang" = some 1 ∧
      (gate.filterUrl url).1 = (other.filterUrl url).1 := by
  intro gate other url
  have hdistinct : shopPolicy.Distinct := ⟨by decide, by decide, by decide⟩
  have hrearranges : shopPolicy.Rearranges reversedShopPolicy :=
    ⟨.swap .., _, .swap .., .cons (.refl _) (.cons ⟨rfl, .swap ..⟩ .nil)⟩
  obtain ⟨_, _, hanswers⟩ := declaration_order_unobservable hdistinct hrearranges 1 1
  have hsame := hanswers {} {} [] [] [] [] [] [] rfl rfl rfl gate other rfl rfl (.filterUrl url)
  exact ⟨⟨hdistinct, hrearranges⟩, by decide, by decide, Gate.Answer.text.inj hsame⟩

end Generation

end QueryGate
