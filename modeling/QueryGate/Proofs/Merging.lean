import Mathlib.Data.List.Nodup
import QueryGate.Proofs.RuleText

/-!
# Policies put together from portions

Declaring what a later policy declares, in its order, merges it into an earlier one. A policy that
was put together from groups on its own is merged in as if its groups were declared one after the
other, because an item that is altered twice is altered by both alterations in order.
-/

namespace QueryGate

/-! ## Rules laid over rules -/

/-- Adding rules one after the other merges them in. -/
theorem foldl_upsert_eq_merge (later earlier : List Rule) :
    later.foldl upsert earlier = Keyed.merge Rule.name (fun rule _ => rule) earlier later := by
  unfold Keyed.merge
  congr
  funext rules rule
  exact upsert_eq_alter rules rule

/-- Rules may be laid over others in two portions, of which the second goes over the first. -/
theorem foldl_upsert_foldl_upsert (last : List Rule) {later : List Rule}
    (hlater : (later.map Rule.name).Nodup) (earlier : List Rule) :
    (last.foldl upsert later).foldl upsert earlier =
      last.foldl upsert (later.foldl upsert earlier) := by
  induction last generalizing later with
  | nil => rfl
  | cons rule last ih =>
    have hstep : (upsert later rule).foldl upsert earlier =
        upsert (later.foldl upsert earlier) rule := by
      rw [foldl_upsert_eq_merge, foldl_upsert_eq_merge, upsert_eq_alter, upsert_eq_alter]
      exact Keyed.merge_alter_later (fun _ _ => rfl) (fun _ => rfl) (fun _ => rfl) (fun _ => rfl)
        hlater (fun _ _ _ => rfl) earlier
    rw [List.foldl_cons, List.foldl_cons, ih (nodup_upsert hlater rule), hstep]

/-- The names of rules that are added are there afterwards, and the others stay. -/
theorem mem_names_foldl_upsert {name : String} (later earlier : List Rule) :
    name ∈ (later.foldl upsert earlier).map Rule.name ↔
      name ∈ earlier.map Rule.name ∨ name ∈ later.map Rule.name := by
  induction later generalizing earlier with
  | nil => simp
  | cons rule later ih =>
    have hstep : name ∈ (upsert earlier rule).map Rule.name ↔
        name ∈ earlier.map Rule.name ∨ name = rule.name := by
      rw [map_name_upsert]
      split
      · next hthere => exact ⟨.inl, fun h => h.elim id fun hname => hname ▸ hthere⟩
      · rw [List.mem_append, List.mem_singleton]
    rw [List.foldl_cons, ih, hstep, List.map_cons, List.mem_cons, or_assoc]

/-- Only rules that were there and rules that are added are there afterwards. -/
theorem mem_of_mem_foldl_upsert {rule : Rule} {later earlier : List Rule}
    (h : rule ∈ later.foldl upsert earlier) : rule ∈ earlier ∨ rule ∈ later := by
  induction later generalizing earlier with
  | nil => exact .inl h
  | cons added later ih =>
    rcases ih h with hstep | hlater
    · rw [upsert_eq_alter] at hstep
      rcases Keyed.mem_alter hstep with hearlier | rfl | ⟨_, _, rfl⟩
      · exact .inl hearlier
      · exact .inr (List.mem_cons_self ..)
      · exact .inr (List.mem_cons_self ..)
    · exact .inr (List.mem_cons_of_mem _ hlater)

/-- Rules are others with later ones laid over them: the names keep their order and new ones stand
behind them, and where both have a rule of one name the later one counts. -/
structure Rule.Overlaid (earlier later both : List Rule) : Prop where
  /-- The names of the earlier rules come first, in their order, and then the new ones. -/
  names : both.map Rule.name =
    earlier.map Rule.name ++ (later.map Rule.name).filter fun name => name ∉ earlier.map Rule.name
  /-- A later rule of a name counts, and else the earlier one. -/
  named : ∀ name, both.find? (·.name = name) =
    (later.find? (·.name = name)).or (earlier.find? (·.name = name))

/-- Adding rules with distinct names lays them over the others. -/
theorem Rule.overlaid_foldl_upsert {later : List Rule} (hlater : (later.map Rule.name).Nodup)
    (earlier : List Rule) : Rule.Overlaid earlier later (later.foldl upsert earlier) := by
  rw [foldl_upsert_eq_merge]
  refine ⟨Keyed.map_key_merge (fun _ _ => rfl) hlater earlier, fun name => ?_⟩
  rw [Keyed.find?_merge (fun _ _ => rfl) hlater]
  cases later.find? (·.name = name) <;> rfl

/-! ## Policies merged into policies -/

namespace Policy

/-- Declares everything that a later policy declares, in its order. -/
def merge (earlier later : Policy) : Policy :=
  later.scopes.foldl (fun policy scope => policy.declareScope scope.pattern scope.params)
    (later.globals.foldl declare earlier)

/-- Declaring rules adds them to the rules for every path. -/
theorem foldl_declare (rules : List Rule) (policy : Policy) :
    rules.foldl declare policy = { policy with globals := rules.foldl upsert policy.globals } := by
  induction rules generalizing policy with
  | nil => rfl
  | cons rule rules ih => exact ih (policy.declare rule)

/-- Declaring scopes merges them in. -/
theorem foldl_declareScope (scopes : List Scope) (policy : Policy) :
    scopes.foldl (fun policy scope => policy.declareScope scope.pattern scope.params) policy =
      { policy with scopes := Keyed.merge Scope.pattern Scope.overlay policy.scopes scopes } := by
  induction scopes generalizing policy with
  | nil => rfl
  | cons scope scopes ih =>
    rw [List.foldl_cons, ih]
    unfold declareScope
    rw [extendScope_eq_alter]
    rfl

variable {earlier later : Policy}

/-- A merged policy merges the rules for every path and the scopes apart. -/
theorem merge_eq (earlier later : Policy) :
    merge earlier later =
      { globals := later.globals.foldl upsert earlier.globals
        scopes := Keyed.merge Scope.pattern Scope.overlay earlier.scopes later.scopes } := by
  unfold merge
  rw [foldl_declareScope, foldl_declare]

/-- A policy that repeats nothing is what it declares. -/
theorem Distinct.empty_merge {policy : Policy} (h : policy.Distinct) :
    merge empty policy = policy := by
  have hrules : ∀ {rules : List Rule},
      (rules.map Rule.name).Nodup → rules.foldl upsert [] = rules := by
    intro rules hdistinct
    rw [foldl_upsert_eq_merge]
    exact Keyed.merge_eq_append (fun _ _ => rfl) hdistinct
  have hscopes : Keyed.merge Scope.pattern Scope.overlay [] policy.scopes = policy.scopes := by
    refine Keyed.merge_eq_append (fun scope hscope => ?_) h.patterns
    exact congrArg (Scope.mk scope.pattern) (hrules (h.params scope hscope))
  rw [merge_eq]
  exact congr (congrArg Policy.mk (hrules h.globals)) hscopes

/-- A group that extends the later policy may as well extend the merged one. -/
theorem merge_extend (hlater : later.Distinct) (group : Group) :
    merge earlier (later.extend group) = (merge earlier later).extend group := by
  cases group with
  | everywhere rules =>
    change merge earlier (rules.foldl declare later) = rules.foldl declare (merge earlier later)
    rw [foldl_declare, foldl_declare, merge_eq, merge_eq]
    exact congrArg (Policy.mk · _) (foldl_upsert_foldl_upsert rules hlater.globals earlier.globals)
  | scope pattern rules =>
    change merge earlier (later.declareScope pattern rules) =
      (merge earlier later).declareScope pattern rules
    rw [merge_eq, merge_eq]
    unfold declareScope
    rw [extendScope_eq_alter, extendScope_eq_alter]
    have hkey : ∀ old, (Scope.overlay ⟨pattern, rules⟩ old).pattern = pattern := fun _ => rfl
    refine congrArg (Policy.mk _) ?_
    refine Keyed.merge_alter_later Scope.pattern_overlay hkey hkey ?_ hlater.patterns ?_
      earlier.scopes
    · intro old
      have hnone : (([] : List Rule).map Rule.name).Nodup := List.nodup_nil
      exact congrArg (Scope.mk pattern) (foldl_upsert_foldl_upsert rules hnone _)
    · intro scope hscope old
      have hscope := hlater.params scope hscope
      exact congrArg (Scope.mk pattern) (foldl_upsert_foldl_upsert rules hscope _)

/-- A group repeats nothing. -/
theorem Distinct.extend {policy : Policy} (h : policy.Distinct) (group : Group) :
    (policy.extend group).Distinct := by
  cases group with
  | everywhere rules => exact h.foldl_declare rules
  | scope pattern rules => exact h.declareScope pattern rules

/-- A policy that is put together from groups is merged in by declaring its groups. -/
theorem merge_foldl_extend (earlier : Policy) (groups : List Group) :
    merge earlier (groups.foldl extend empty) = groups.foldl extend earlier := by
  suffices h : ∀ later : Policy, later.Distinct →
      merge earlier (groups.foldl extend later) = groups.foldl extend (merge earlier later) from
    h empty distinct_empty
  induction groups with
  | nil => exact fun _ _ => rfl
  | cons group groups ih =>
    intro later hlater
    rw [List.foldl_cons, List.foldl_cons, ih _ (hlater.extend group), merge_extend hlater]

/-! ## The rules of one place -/

/-- The rules for every path, or those for the paths that a pattern matches. -/
def rulesOf (policy : Policy) : Option String → List Rule
  | none => policy.globals
  | some pattern => (policy.scopes.find? (·.pattern = pattern)).elim [] Scope.params

/-- The rules of a scope are those of the first scope with its pattern. -/
theorem rulesOf_some (policy : Policy) (pattern : String) :
    policy.rulesOf (some pattern) =
      (policy.scopes.find? (·.pattern = pattern)).elim [] Scope.params := rfl

/-- The pattern that a group is meant for, if it is not meant for every path. -/
def Group.place : Group → Option String
  | .everywhere _ => none
  | .scope pattern _ => some pattern

/-- The rules of a group. -/
def Group.rules : Group → List Rule
  | .everywhere rules => rules
  | .scope _ rules => rules

/-- The rules of a group are added where it is meant for, and nowhere else. -/
theorem rulesOf_extend (policy : Policy) (group : Group) (place : Option String) :
    (policy.extend group).rulesOf place =
      if group.place = place then group.rules.foldl upsert (policy.rulesOf place)
      else policy.rulesOf place := by
  cases group with
  | everywhere rules =>
    change (rules.foldl declare policy).rulesOf place = _
    rw [foldl_declare]
    cases place <;> rfl
  | scope pattern rules =>
    cases place with
    | none => rfl
    | some other =>
      have hkey : ∀ old, (Scope.overlay ⟨pattern, rules⟩ old).pattern = pattern := fun _ => rfl
      change (policy.declareScope pattern rules).rulesOf (some other) = _
      rw [rulesOf_some, rulesOf_some, declareScope, extendScope_eq_alter, Keyed.find?_alter hkey]
      by_cases hpattern : pattern = other
      · subst hpattern
        simp [Group.place, Group.rules, Scope.overlay]
      · simp [Group.place, hpattern]

/-- The later rules of a place are laid over the earlier ones when policies are merged. -/
theorem rulesOf_merge (earlier : Policy) (hlater : later.Distinct) (place : Option String) :
    (merge earlier later).rulesOf place =
      (later.rulesOf place).foldl upsert (earlier.rulesOf place) := by
  rw [merge_eq]
  cases place with
  | none => rfl
  | some pattern =>
    rw [rulesOf_some, rulesOf_some, rulesOf_some,
      Keyed.find?_merge Scope.pattern_overlay hlater.patterns]
    cases later.scopes.find? (·.pattern = pattern) <;> rfl

/-- The names in every place are distinct. -/
theorem Distinct.rulesOf {policy : Policy} (h : policy.Distinct) (place : Option String) :
    ((policy.rulesOf place).map Rule.name).Nodup := by
  cases place with
  | none => exact h.globals
  | some pattern =>
    rw [rulesOf_some]
    cases hfind : policy.scopes.find? (·.pattern = pattern) with
    | none => exact List.nodup_nil
    | some scope => exact h.params scope (List.mem_of_find?_eq_some hfind)

/-- The rules of a scope are those of its place, if no pattern is declared twice. -/
theorem Distinct.rulesOf_pattern {policy : Policy} (h : policy.Distinct) {scope : Scope}
    (hscope : scope ∈ policy.scopes) : policy.rulesOf (some scope.pattern) = scope.params := by
  rw [rulesOf_some]
  cases hfind : policy.scopes.find? (·.pattern = scope.pattern) with
  | none => exact absurd (List.find?_eq_none.mp hfind scope hscope) (by simp)
  | some found =>
    have hpattern : found.pattern = scope.pattern := by simpa using List.find?_some hfind
    rw [List.inj_on_of_nodup_map h.patterns (List.mem_of_find?_eq_some hfind) hscope hpattern]
    rfl

/-- The names of a place are those of the groups that are meant for it. -/
theorem mem_names_foldl_extend {name : String} {place : Option String} (groups : List Group)
    (policy : Policy) :
    name ∈ ((groups.foldl extend policy).rulesOf place).map Rule.name ↔
      name ∈ (policy.rulesOf place).map Rule.name ∨
        ∃ group ∈ groups, group.place = place ∧ name ∈ group.rules.map Rule.name := by
  induction groups generalizing policy with
  | nil => simp
  | cons group groups ih =>
    rw [List.foldl_cons, ih, rulesOf_extend, List.exists_mem_cons_iff]
    by_cases hplace : group.place = place
    · rw [if_pos hplace, mem_names_foldl_upsert]
      simp only [hplace, true_and, or_assoc]
    · rw [if_neg hplace]
      simp only [hplace, false_and, false_or]

/-- The rules of a place are among those of the groups that are meant for it. -/
theorem mem_of_mem_rulesOf_foldl_extend {rule : Rule} {place : Option String} {groups : List Group}
    {policy : Policy} (h : rule ∈ (groups.foldl extend policy).rulesOf place) :
    rule ∈ policy.rulesOf place ∨
      ∃ group ∈ groups, group.place = place ∧ rule ∈ group.rules := by
  induction groups generalizing policy with
  | nil => exact .inl h
  | cons group groups ih =>
    rcases ih h with hstep | ⟨later, hlater, hplace⟩
    · rw [rulesOf_extend] at hstep
      split at hstep
      · next hplace =>
        rcases mem_of_mem_foldl_upsert hstep with hbefore | hadded
        · exact .inl hbefore
        · exact .inr ⟨group, List.mem_cons_self .., hplace, hadded⟩
      · exact .inl hstep
    · exact .inr ⟨later, List.mem_cons_of_mem _ hlater, hplace⟩

/-- The patterns of a policy are those that its groups are meant for. -/
theorem mem_patterns_foldl_extend {pattern : String} {groups : List Group} {policy : Policy}
    (h : pattern ∈ (groups.foldl extend policy).scopes.map Scope.pattern) :
    pattern ∈ policy.scopes.map Scope.pattern ∨ ∃ group ∈ groups, group.place = some pattern := by
  induction groups generalizing policy with
  | nil => exact .inl h
  | cons group groups ih =>
    rcases ih h with hstep | ⟨later, hlater, hplace⟩
    · cases group with
      | everywhere rules =>
        change pattern ∈ (rules.foldl declare policy).scopes.map Scope.pattern at hstep
        rw [foldl_declare] at hstep
        exact .inl hstep
      | scope declared rules =>
        change pattern ∈ (extendScope policy.scopes declared rules).map Scope.pattern at hstep
        rw [map_pattern_extendScope] at hstep
        split at hstep
        · exact .inl hstep
        · rcases List.mem_append.mp hstep with hbefore | hnew
          · exact .inl hbefore
          · rw [List.mem_singleton.mp hnew]
            exact .inr ⟨_, List.mem_cons_self .., rfl⟩
    · exact .inr ⟨later, List.mem_cons_of_mem _ hlater, hplace⟩

/-- A policy is another with a later one laid over it: the patterns keep their order and new ones
stand behind them, and in each place the later rules are laid over the earlier ones. -/
structure Overlaid (earlier later both : Policy) : Prop where
  /-- The patterns of the earlier policy come first, in their order, and then the new ones. -/
  patterns : both.scopes.map Scope.pattern = earlier.scopes.map Scope.pattern ++
    (later.scopes.map Scope.pattern).filter fun pattern =>
      pattern ∉ earlier.scopes.map Scope.pattern
  /-- In each place the later rules are laid over the earlier ones. -/
  rules : ∀ place,
    Rule.Overlaid (earlier.rulesOf place) (later.rulesOf place) (both.rulesOf place)

/-- Merging lays the later policy over the earlier one. -/
theorem overlaid_merge (earlier : Policy) (hlater : later.Distinct) :
    Overlaid earlier later (merge earlier later) := by
  constructor
  · rw [merge_eq]
    exact Keyed.map_key_merge Scope.pattern_overlay hlater.patterns earlier.scopes
  · intro place
    rw [rulesOf_merge earlier hlater place]
    exact Rule.overlaid_foldl_upsert (hlater.rulesOf place) (earlier.rulesOf place)

end Policy

end QueryGate
