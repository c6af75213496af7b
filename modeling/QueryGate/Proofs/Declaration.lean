import Mathlib.Data.List.TakeWhile
import QueryGate.Policy.Check
import QueryGate.Policy.Parser
import QueryGate.Proofs.Keyed

/-!
# Declared policies are orderly

Declaring a rule or a scope replaces what has its name, so a policy that is put together by
declarations names everything once. A policy that also passes its checks is orderly: no name is
blank, bounds are in order, and the rule for every parameter is alone in its scope.
-/

namespace QueryGate

/-! ## Steps that may fail -/

namespace Except

variable {ε α β : Type}

/-- A step that depends on an earlier one succeeds only after the earlier one did. -/
theorem bind_eq_ok_iff {first : Except ε α} {next : α → Except ε β} {b : β} :
    (first >>= next) = .ok b ↔ ∃ a, first = .ok a ∧ next a = .ok b := by
  cases first with
  | error error => simp [bind, Except.bind]
  | ok a => simp [bind, Except.bind]

/-- What every successful step keeps holds after a successful run over a list. -/
theorem foldlM_keeps {P : β → Prop} {step : β → α → Except ε β} {xs : List α}
    (hstep : ∀ b x b', P b → step b x = .ok b' → P b') {b b' : β} (hb : P b)
    (h : xs.foldlM step b = .ok b') : P b' := by
  induction xs generalizing b with
  | nil =>
    rw [List.foldlM_nil] at h
    cases h
    exact hb
  | cons x xs ih =>
    rw [List.foldlM_cons] at h
    obtain ⟨middle, hfirst, hrest⟩ := bind_eq_ok_iff.mp h
    exact ih (hstep b x middle hb hfirst) hrest

/-- A check of every item succeeds if it succeeds for each of them. -/
theorem forM_eq_ok_iff {check : α → Except ε Unit} {xs : List α} :
    xs.forM check = .ok () ↔ ∀ x ∈ xs, check x = .ok () := by
  induction xs with
  | nil => simp [pure, Except.pure]
  | cons x xs ih =>
    change (check x >>= fun _ => xs.forM check) = .ok () ↔ _
    rw [bind_eq_ok_iff, List.forall_mem_cons, ← ih]
    constructor
    · rintro ⟨_, hx, hxs⟩
      exact ⟨hx, hxs⟩
    · rintro ⟨hx, hxs⟩
      exact ⟨(), hx, hxs⟩

/-- A check of every item fails with an error only if it does for one of them. -/
theorem exists_of_forM_eq_error {check : α → Except ε Unit} {xs : List α} {error : ε}
    (h : xs.forM check = .error error) : ∃ x ∈ xs, check x = .error error := by
  induction xs with
  | nil => cases h
  | cons x xs ih =>
    change (check x >>= fun _ => xs.forM check) = .error error at h
    cases hx : check x with
    | error first =>
      rw [hx] at h
      cases h
      exact ⟨x, List.mem_cons_self .., hx⟩
    | ok =>
      rw [hx] at h
      obtain ⟨y, hmem, hy⟩ := ih h
      exact ⟨y, List.mem_cons_of_mem _ hmem, hy⟩

end Except

/-! ## Policies without repetitions -/

/-- Adding a rule alters the rule with its name. -/
theorem upsert_eq_alter (rules : List Rule) (rule : Rule) :
    upsert rules rule = Keyed.alter Rule.name rule.name (fun _ => rule) rules := by
  induction rules with
  | nil => rfl
  | cons first rest ih => rw [upsert, Keyed.alter, ih]

/-- The names of rules with one rule added. -/
theorem map_name_upsert (rules : List Rule) (rule : Rule) :
    (upsert rules rule).map Rule.name =
      if rule.name ∈ rules.map Rule.name then rules.map Rule.name
      else rules.map Rule.name ++ [rule.name] := by
  rw [upsert_eq_alter]
  exact Keyed.map_key_alter (fun _ => rfl) rules

/-- Names stay distinct when a rule is added. -/
theorem nodup_upsert {rules : List Rule} (h : (rules.map Rule.name).Nodup) (rule : Rule) :
    ((upsert rules rule).map Rule.name).Nodup := by
  rw [upsert_eq_alter]
  exact Keyed.nodup_map_key_alter (fun _ => rfl) h

/-- Names stay distinct when rules are added one after the other. -/
theorem nodup_foldl_upsert (params : List Rule) {rules : List Rule}
    (h : (rules.map Rule.name).Nodup) :
    ((params.foldl upsert rules).map Rule.name).Nodup := by
  induction params generalizing rules with
  | nil => exact h
  | cons rule params ih => exact ih (nodup_upsert h rule)

/-- A scope laid over the scope with its pattern, if there is one. -/
def Scope.overlay (scope : Scope) (old : Option Scope) : Scope :=
  ⟨scope.pattern, scope.params.foldl upsert (old.elim [] Scope.params)⟩

/-- A scope that is laid over another keeps its pattern. -/
theorem Scope.pattern_overlay (scope : Scope) (old : Option Scope) :
    (scope.overlay old).pattern = scope.pattern := rfl

namespace Policy

/-- No pattern is declared twice, and no name twice in one scope. -/
structure Distinct (policy : Policy) : Prop where
  /-- The patterns are distinct. -/
  patterns : (policy.scopes.map Scope.pattern).Nodup
  /-- The names of the rules for every path are distinct. -/
  globals : (policy.globals.map Rule.name).Nodup
  /-- The names in each scope are distinct. -/
  params : ∀ scope ∈ policy.scopes, (scope.params.map Rule.name).Nodup

/-- The policy without rules repeats nothing. -/
theorem distinct_empty : Distinct .empty :=
  ⟨List.nodup_nil, List.nodup_nil, fun _ h => nomatch h⟩

/-- Adding rules to a scope alters the scope with its pattern. -/
theorem extendScope_eq_alter (scopes : List Scope) (pattern : String) (params : List Rule) :
    extendScope scopes pattern params =
      Keyed.alter Scope.pattern pattern (Scope.overlay ⟨pattern, params⟩) scopes := by
  induction scopes with
  | nil => rfl
  | cons scope rest ih =>
    rw [extendScope, Keyed.alter, ih]
    split
    · next hpattern =>
      subst hpattern
      rfl
    · rfl

/-- The patterns of scopes with one scope extended. -/
theorem map_pattern_extendScope (scopes : List Scope) (pattern : String) (params : List Rule) :
    (extendScope scopes pattern params).map Scope.pattern =
      if pattern ∈ scopes.map Scope.pattern then scopes.map Scope.pattern
      else scopes.map Scope.pattern ++ [pattern] := by
  have hkey : ∀ old, (Scope.overlay ⟨pattern, params⟩ old).pattern = pattern := fun _ => rfl
  rw [extendScope_eq_alter]
  exact Keyed.map_key_alter hkey scopes

variable {policy : Policy}

/-- Declaring a rule repeats nothing. -/
theorem Distinct.declare (h : policy.Distinct) (rule : Rule) : (policy.declare rule).Distinct :=
  ⟨h.patterns, nodup_upsert h.globals rule, h.params⟩

/-- Declaring rules one after the other repeats nothing. -/
theorem Distinct.foldl_declare (h : policy.Distinct) (rules : List Rule) :
    (rules.foldl Policy.declare policy).Distinct := by
  induction rules generalizing policy with
  | nil => exact h
  | cons rule rules ih => exact ih (h.declare rule)

/-- Declaring a scope repeats nothing. -/
theorem Distinct.declareScope (h : policy.Distinct) (pattern : String) (params : List Rule) :
    (policy.declareScope pattern params).Distinct := by
  have hkey : ∀ old, (Scope.overlay ⟨pattern, params⟩ old).pattern = pattern := fun _ => rfl
  unfold Policy.declareScope
  rw [extendScope_eq_alter]
  refine ⟨Keyed.nodup_map_key_alter hkey h.patterns, h.globals, ?_⟩
  intro scope hscope
  rcases Keyed.mem_alter hscope with hold | rfl | ⟨old, hmem, rfl⟩
  · exact h.params scope hold
  · exact nodup_foldl_upsert params List.nodup_nil
  · exact nodup_foldl_upsert params (h.params old hmem)

/-- A group of rule text repeats nothing. -/
theorem Distinct.addGroup (h : policy.Distinct) {plugins : List Plugin} {number : Nat}
    {group : List Char} {next : Policy}
    (hgroup : policy.addGroup plugins number group = .ok next) : next.Distinct := by
  unfold Policy.addGroup at hgroup
  split at hgroup
  · cases hgroup
    exact h
  obtain ⟨parts, _, hgroup⟩ := Except.bind_eq_ok_iff.mp hgroup
  cases parts with
  | none =>
    obtain ⟨rules, _, hrules⟩ := Except.bind_eq_ok_iff.mp hgroup
    cases hrules
    exact h.foldl_declare rules
  | some parts =>
    obtain ⟨rules, _, hrules⟩ := Except.bind_eq_ok_iff.mp hgroup
    cases hrules
    exact h.declareScope _ rules

/-- The policy of a text repeats nothing. -/
theorem distinct_of_parse {plugins : List Plugin} {text : String}
    (h : Policy.parse plugins text = .ok policy) : policy.Distinct := by
  obtain ⟨groups, _, hgroups⟩ := Except.bind_eq_ok_iff.mp h
  exact Except.foldlM_keeps (fun _ _ _ hb hstep => Distinct.addGroup hb hstep) distinct_empty
    hgroups

end Policy

/-! ## Policies that pass their checks -/

/-- A text is blank if all of its characters are. -/
theorem Text.trim_eq_nil_iff {cs : List Char} : trim cs = [] ↔ ∀ c ∈ cs, isBlank c = true := by
  unfold trim trimEnd trimStart
  rw [List.reverse_eq_nil_iff, List.dropWhile_eq_nil_iff]
  simp only [List.mem_reverse]
  constructor
  · intro h c hc
    rw [← List.takeWhile_append_dropWhile (p := isBlank) (l := cs)] at hc
    rcases List.mem_append.mp hc with htaken | hdropped
    · exact List.mem_takeWhile_imp htaken
    · exact h c hdropped
  · intro h c hc
    exact h c ((List.dropWhile_sublist isBlank).subset hc)

/-- Rules of one scope as they are when they are in force. -/
structure Rule.Orderly (rules : List Rule) : Prop where
  /-- Every name is declared once. -/
  distinct : (rules.map Rule.name).Nodup
  /-- No name is blank. -/
  named : ∀ rule ∈ rules, ∃ c ∈ rule.name.toList, Text.isBlank c = false
  /-- The bounds of every range are in order. -/
  ordered : ∀ rule ∈ rules, ∀ min max, rule.constraint = .range min max → min ≤ max
  /-- The rule for every parameter is alone. -/
  alone : ∀ rule ∈ rules, rule.name = acceptAllName → rules = [rule]

/-- A policy as it is when it is in force. -/
structure Policy.Orderly (policy : Policy) : Prop where
  /-- Every pattern is declared once. -/
  patterns : (policy.scopes.map Scope.pattern).Nodup
  /-- The rules for every path are orderly. -/
  globals : Rule.Orderly policy.globals
  /-- The rules of each scope are orderly. -/
  params : ∀ scope ∈ policy.scopes, Rule.Orderly scope.params

/-- A rule passes its check if its name is not blank and its bounds are in order. -/
theorem Rule.check_eq_ok_iff {rule : Rule} :
    rule.check = .ok () ↔
      (∃ c ∈ rule.name.toList, Text.isBlank c = false) ∧
        ∀ min max, rule.constraint = .range min max → min ≤ max := by
  have hblank : (Text.trim rule.name.toList).isEmpty = true ↔
      ¬∃ c ∈ rule.name.toList, Text.isBlank c = false := by
    rw [List.isEmpty_iff, Text.trim_eq_nil_iff]
    simp
  unfold Rule.check
  by_cases hempty : (Text.trim rule.name.toList).isEmpty = true
  · rw [if_pos hempty]
    constructor
    · intro h
      cases h
    · rintro ⟨hname, _⟩
      exact absurd hname (hblank.mp hempty)
  · have hname := not_not.mp (mt hblank.mpr hempty)
    rw [if_neg hempty]
    dsimp only
    cases hconstraint : rule.constraint with
    | range min max =>
      by_cases hreversed : max < min
      · simp only [if_pos hreversed]
        constructor
        · intro h
          cases h
        · rintro ⟨_, hordered⟩
          have hle := hordered min max rfl
          omega
      · simp only [if_neg hreversed]
        refine ⟨fun _ => ⟨hname, ?_⟩, fun _ => rfl⟩
        intro low high hbounds
        cases hbounds
        omega
    | _ =>
      refine ⟨fun _ => ⟨hname, ?_⟩, fun _ => rfl⟩
      intro low high hbounds
      cases hbounds

/-- The rule for every parameter has company exactly if there are several rules and it is among
them. -/
theorem Rule.company_iff {rules : List Rule} :
    (decide (1 < rules.length) && rules.any Rule.isAcceptAll) = true ↔
      ¬∀ rule ∈ rules, rule.name = acceptAllName → rules.length ≤ 1 := by
  rw [Bool.and_eq_true, decide_eq_true_iff, List.any_eq_true]
  simp only [Rule.isAcceptAll, beq_iff_eq]
  constructor
  · rintro ⟨hmany, rule, hmem, hname⟩ halone
    have hfew := halone rule hmem hname
    omega
  · intro h
    by_contra hnone
    apply h
    intro rule hmem hname
    by_contra hmany
    exact hnone ⟨by omega, rule, hmem, hname⟩

/-- Rules pass the check for company if the rule for every parameter has none. -/
theorem Rule.checkAlone_eq_ok_iff {rules : List Rule} {scope : String} :
    Rule.checkAlone rules scope = .ok () ↔
      ∀ rule ∈ rules, rule.name = acceptAllName → rules.length ≤ 1 := by
  unfold Rule.checkAlone
  split
  · next hcompany => exact ⟨nofun, fun halone => absurd halone (Rule.company_iff.mp hcompany)⟩
  · next halone => exact ⟨fun _ => not_not.mp (mt Rule.company_iff.mpr halone), fun _ => rfl⟩

/-- A policy passes its checks if each of its lists of rules does and no pattern is blank. -/
theorem Policy.check_eq_ok_iff {policy : Policy} :
    policy.check = .ok () ↔
      Rule.checkAlone policy.globals "global rules" = .ok () ∧
        (∀ rule ∈ policy.globals, rule.check = .ok ()) ∧
        ∀ scope ∈ policy.scopes, scope.check = .ok () := by
  unfold Policy.check
  rw [Except.bind_eq_ok_iff]
  constructor
  · rintro ⟨_, halone, hrest⟩
    obtain ⟨_, hglobals, hscopes⟩ := Except.bind_eq_ok_iff.mp hrest
    exact ⟨halone, Except.forM_eq_ok_iff.mp hglobals, Except.forM_eq_ok_iff.mp hscopes⟩
  · rintro ⟨halone, hglobals, hscopes⟩
    exact ⟨(), halone, Except.bind_eq_ok_iff.mpr
      ⟨(), Except.forM_eq_ok_iff.mpr hglobals, Except.forM_eq_ok_iff.mpr hscopes⟩⟩

/-- A scope passes its check if its pattern is not blank and its rules pass theirs. -/
theorem Scope.check_eq_ok_iff {scope : Scope} :
    scope.check = .ok () ↔
      (∃ c ∈ scope.pattern.toList, Text.isBlank c = false) ∧
        Rule.checkAlone scope.params scope.pattern = .ok () ∧
        ∀ rule ∈ scope.params, rule.check = .ok () := by
  have hblank : (Text.trim scope.pattern.toList).isEmpty = true ↔
      ¬∃ c ∈ scope.pattern.toList, Text.isBlank c = false := by
    rw [List.isEmpty_iff, Text.trim_eq_nil_iff]
    simp
  unfold Scope.check
  by_cases hempty : (Text.trim scope.pattern.toList).isEmpty = true
  · rw [if_pos hempty]
    constructor
    · intro h
      cases h
    · rintro ⟨hpattern, _⟩
      exact absurd hpattern (hblank.mp hempty)
  · have hpattern := not_not.mp (mt hblank.mpr hempty)
    rw [if_neg hempty]
    change (Rule.checkAlone scope.params scope.pattern >>= fun _ =>
      scope.params.forM Rule.check) = .ok () ↔ _
    rw [Except.bind_eq_ok_iff]
    constructor
    · rintro ⟨_, halone, hparams⟩
      exact ⟨hpattern, halone, Except.forM_eq_ok_iff.mp hparams⟩
    · rintro ⟨_, halone, hparams⟩
      exact ⟨(), halone, Except.forM_eq_ok_iff.mpr hparams⟩

/-- Rules with distinct names that pass their checks are orderly. -/
theorem Rule.orderly_of_check {rules : List Rule} {scope : String}
    (hdistinct : (rules.map Rule.name).Nodup)
    (halone : Rule.checkAlone rules scope = .ok ())
    (hchecks : ∀ rule ∈ rules, rule.check = .ok ()) : Rule.Orderly rules := by
  refine ⟨hdistinct, ?_, ?_, ?_⟩
  · intro rule hmem
    exact (Rule.check_eq_ok_iff.mp (hchecks rule hmem)).1
  · intro rule hmem
    exact (Rule.check_eq_ok_iff.mp (hchecks rule hmem)).2
  · intro rule hmem hname
    have hfew := Rule.checkAlone_eq_ok_iff.mp halone rule hmem hname
    match rules, hmem, hfew with
    | [only], hmem, _ => rw [List.mem_singleton.mp hmem]

/-- A policy without repetitions that passes its checks is orderly. -/
theorem Policy.Distinct.orderly {policy : Policy} (h : policy.Distinct)
    (hcheck : policy.check = .ok ()) : policy.Orderly := by
  obtain ⟨halone, hglobals, hscopes⟩ := Policy.check_eq_ok_iff.mp hcheck
  refine ⟨h.patterns, Rule.orderly_of_check h.globals halone hglobals, ?_⟩
  intro scope hmem
  obtain ⟨_, halone, hparams⟩ := Scope.check_eq_ok_iff.mp (hscopes scope hmem)
  exact Rule.orderly_of_check (h.params scope hmem) halone hparams

end QueryGate
