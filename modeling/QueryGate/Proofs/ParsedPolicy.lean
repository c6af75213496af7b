import QueryGate.Plugin.Builtin
import QueryGate.Proofs.Merging
import QueryGate.Proofs.Resolution
import QueryGate.Proofs.Trimming

/-!
# What a policy that was read is like

Whatever is read from a text is declared once, has a trimmed name and a constraint that makes sense,
and stands under a pattern that starts like a path. One fault is left that keeps such a policy from
coming into force: no group names the rule for every parameter together with another one, but two
groups that are meant for one place may.
-/

namespace QueryGate

open QueryGate.Text

/-! ## Rules -/

/-- A constraint that text can ask for: bounds are in order, and a list of values has values, which
are trimmed. -/
def Constraint.WellRead : Constraint → Prop
  | .range min max => min ≤ max
  | .oneOf values => values ≠ [] ∧ ∀ value ∈ values, value ≠ "" ∧ Trimmed value.toList
  | _ => True

/-- A rule that text can spell. -/
structure Rule.WellRead (rule : Rule) : Prop where
  /-- The rule has a name. -/
  named : rule.name ≠ ""
  /-- No blanks stand around the name. -/
  trimmed : Trimmed rule.name.toList
  /-- The constraint makes sense. -/
  constraint : rule.constraint.WellRead

/-- Every item of the right list stands in relation to one of the left list. -/
theorem exists_mem_left_of_forall₂ {α β : Type} {R : α → β → Prop} {xs : List α} {ys : List β}
    (h : List.Forall₂ R xs ys) {y : β} (hy : y ∈ ys) : ∃ x ∈ xs, R x y := by
  obtain ⟨place, hplace, rfl⟩ := List.getElem_of_mem hy
  have hleft : place < xs.length := h.length_eq ▸ hplace
  exact ⟨xs[place], List.getElem_mem hleft, h.get hleft hplace⟩

section Reading

variable {plugins : List Plugin}

/-- A plugin makes no bounds and no list of values. -/
theorem Constraint.wellRead_of_ofPlugins {name body : String} {constraint : Constraint}
    (h : Constraint.ofPlugins plugins name body = .ok (some constraint)) : constraint.WellRead := by
  induction plugins with
  | nil => cases h
  | cons first rest ih =>
    rw [Constraint.ofPlugins] at h
    split at h
    · cases h
      trivial
    · exact ih h
    · cases h

/-- The values of a list are trimmed, and none is empty. -/
theorem trimmed_of_mem_valueList {body : List Char} {value : String}
    (h : value ∈ valueList body) : value ≠ "" ∧ Trimmed value.toList := by
  unfold valueList at h
  obtain ⟨trimmed, hmem, rfl⟩ := List.mem_map.mp h
  obtain ⟨hparts, hne⟩ := List.mem_filter.mp hmem
  obtain ⟨part, _, rfl⟩ := List.mem_map.mp hparts
  rw [String.toList_ofList]
  exact ⟨by simpa using hne, trimmed_trim part⟩

/-- What a text spells between brackets makes sense. -/
theorem Constraint.Spelled.wellRead {name : String} {body : List Char} {constraint : Constraint}
    (h : Constraint.Spelled plugins name body constraint) : constraint.WellRead := by
  cases h with
  | keyOnly => trivial
  | any => trivial
  | callback => trivial
  | range hbounds hordered => exact hordered
  | plugin hforeign hplugins => exact wellRead_of_ofPlugins hplugins
  | oneOf hforeign hplugins hvalues => exact ⟨hvalues, fun _ => trimmed_of_mem_valueList⟩

/-- The name that is left when the `!` of an inverted rule is taken off is trimmed. -/
theorem trimmed_of_splitInversion {before name : List Char} {inverted : Bool}
    (h : splitInversion (trim before) = (name, inverted)) : Trimmed name := by
  unfold splitInversion at h
  split at h
  · cases h
    exact trimmed_trim _
  · cases h
    exact trimmed_trim before

/-- A trimmed text spells a rule that has a trimmed name and makes sense. -/
theorem Rule.Spelled.wellRead {spec : List Char} {rule : Rule} (hne : spec ≠ [])
    (htrimmed : Trimmed spec) (h : Rule.Spelled plugins spec rule) : rule.WellRead := by
  cases h with
  | bare hfind hopening hclosing =>
    exact ⟨by simpa using hne, by rwa [String.toList_ofList], trivial⟩
  | constrained hfind hname hnamed hafter hclose hconstraint =>
    refine ⟨by simpa using hnamed, ?_, hconstraint.wellRead⟩
    rw [String.toList_ofList]
    exact trimmed_of_splitInversion hname

/-- The rules of a list make sense. -/
theorem Rule.ListSpelled.wellRead {params : List Char} {rules : List Rule}
    (h : Rule.ListSpelled plugins params rules) : ∀ rule ∈ rules, rule.WellRead := by
  obtain ⟨specs, _, hspecs⟩ := h.specs
  intro rule hmem
  obtain ⟨spec, hspec, hspelled⟩ := exists_mem_left_of_forall₂ hspecs hmem
  obtain ⟨hparts, hne⟩ := List.mem_filter.mp hspec
  obtain ⟨part, _, rfl⟩ := List.mem_map.mp hparts
  exact hspelled.wellRead (by simpa using hne) (trimmed_trim part)

/-- The rules of a group make sense. -/
theorem Policy.GroupSpelled.wellRead {text : List Char} {group : Policy.Group}
    (h : Policy.GroupSpelled plugins text group) : ∀ rule ∈ group.rules, rule.WellRead := by
  cases h with
  | blank => exact fun _ hmem => nomatch hmem
  | everywhere hne hgroup hrules => exact hrules.wellRead
  | scope hfind hpattern hrules => exact hrules.wellRead

end Reading

/-! ## Groups that mix -/

/-- The rule for every parameter is named together with another one. -/
def Rule.Mixed (rules : List Rule) : Prop :=
  acceptAllName ∈ rules.map Rule.name ∧ ∃ name ∈ rules.map Rule.name, name ≠ acceptAllName

/-- Where rules mix, the rule for every parameter has company. -/
theorem Rule.Mixed.not_alone {rules : List Rule} (h : Rule.Mixed rules) :
    ¬∀ rule ∈ rules, rule.name = acceptAllName → rules.length ≤ 1 := by
  intro halone
  obtain ⟨hstands, name, hname, hother⟩ := h
  obtain ⟨rule, hrule, hstar⟩ := List.mem_map.mp hstands
  obtain ⟨other, hmem, rfl⟩ := List.mem_map.mp hname
  have hfew := halone rule hrule hstar
  match rules, hrule, hmem, hfew with
  | [only], hrule, hmem, _ =>
    rw [List.mem_singleton.mp hmem, ← List.mem_singleton.mp hrule] at hother
    exact hother hstar

/-- Rules with distinct names mix exactly if the rule for every parameter has company. -/
theorem Rule.mixed_iff_of_nodup {rules : List Rule} (h : (rules.map Rule.name).Nodup) :
    Rule.Mixed rules ↔ ¬∀ rule ∈ rules, rule.name = acceptAllName → rules.length ≤ 1 := by
  refine ⟨Rule.Mixed.not_alone, fun hcompany => ?_⟩
  push Not at hcompany
  obtain ⟨rule, hrule, hstar, hmany⟩ := hcompany
  refine ⟨List.mem_map.mpr ⟨rule, hrule, hstar⟩, ?_⟩
  by_contra hnone
  push Not at hnone
  -- All names are the same, so that distinct ones are no more than one.
  have hlength : (rules.map Rule.name).length ≤ 1 := by
    rw [List.eq_replicate_of_mem hnone] at h
    exact List.nodup_replicate.mp h
  rw [List.length_map] at hlength
  omega

/-- No group mixes. -/
theorem Policy.GroupSpelled.not_mixed {plugins : List Plugin} {text : List Char}
    {group : Policy.Group} (h : Policy.GroupSpelled plugins text group) :
    ¬Rule.Mixed group.rules := by
  cases h with
  | blank => exact fun hmixed => nomatch hmixed.1
  | everywhere hne hgroup hrules => exact fun hmixed => hmixed.not_alone hrules.alone
  | scope hfind hpattern hrules => exact fun hmixed => hmixed.not_alone hrules.alone

/-! ## What keeps a policy from coming into force -/

/-- A rule that text can spell passes its check. -/
theorem Rule.WellRead.check {rule : Rule} (h : rule.WellRead) : rule.check = .ok () := by
  refine Rule.check_eq_ok_iff.mpr ⟨?_, ?_⟩
  · cases hname : rule.name.toList with
    | nil => exact absurd (String.toList_eq_nil_iff.mp hname) h.named
    | cons c cs => exact ⟨c, List.mem_cons_self .., h.trimmed.head c (by rw [hname]; rfl)⟩
  · intro min max hconstraint
    have hwell := h.constraint
    rw [hconstraint] at hwell
    exact hwell

/-- Only rules that mix fail the check for company. -/
theorem Rule.checkAlone_eq_error {rules : List Rule} {label : String} {error : Error}
    (hdistinct : (rules.map Rule.name).Nodup) (h : Rule.checkAlone rules label = .error error) :
    Rule.Mixed rules ∧ error = .invalidRule (.acceptAllNotAlone label) := by
  refine ⟨?_, ?_⟩
  · rw [Rule.mixed_iff_of_nodup hdistinct, ← Rule.checkAlone_eq_ok_iff, h]
    nofun
  · unfold Rule.checkAlone at h
    split at h
    · cases h
      rfl
    · cases h

namespace Policy

/-- A policy like those that are read from texts. -/
structure WellRead (policy : Policy) : Prop where
  /-- No pattern is declared twice, and no name twice in one place. -/
  distinct : policy.Distinct
  /-- The patterns start like paths or with wildcards. -/
  rooted : ∀ scope ∈ policy.scopes, Rooted scope.pattern
  /-- The rules for every path are such as text can spell. -/
  globals : ∀ rule ∈ policy.globals, rule.WellRead
  /-- The rules of each scope are such as text can spell. -/
  params : ∀ scope ∈ policy.scopes, ∀ rule ∈ scope.params, rule.WellRead

/-- What an error calls the place of rules. -/
def placeLabel : Option String → String
  | none => "global rules"
  | some pattern => pattern

variable {plugins : List Plugin} {policy : Policy}

/-- A pattern that starts like a path or with a wildcard is not blank. -/
theorem Rooted.exists_not_isBlank {pattern : String} (h : Rooted pattern) :
    ∃ c ∈ pattern.toList, isBlank c = false := by
  rcases h with hhead | hhead
  · exact ⟨'/', List.mem_of_mem_head? hhead, by decide⟩
  · exact ⟨'*', List.mem_of_mem_head? hhead, by decide⟩

/-- A policy like those that are read fails its checks only because rules of one place mix, and this
is what the error says. -/
theorem WellRead.mixed_of_check (h : policy.WellRead) {error : Error}
    (hcheck : policy.check = .error error) :
    ∃ place, Rule.Mixed (policy.rulesOf place) ∧
      error = .invalidRule (.acceptAllNotAlone (placeLabel place)) := by
  have hpassed : ∀ {rules : List Rule}, (∀ rule ∈ rules, rule.WellRead) →
      rules.forM Rule.check = .ok () :=
    fun hrules => Except.forM_eq_ok_iff.mpr fun rule hmem => (hrules rule hmem).check
  unfold check at hcheck
  cases halone : Rule.checkAlone policy.globals "global rules" with
  | error first =>
    rw [halone] at hcheck
    cases hcheck
    exact ⟨none, Rule.checkAlone_eq_error h.distinct.globals halone⟩
  | ok =>
    rw [halone, hpassed h.globals] at hcheck
    obtain ⟨scope, hscope, hfails⟩ := Except.exists_of_forM_eq_error hcheck
    have hmixed : Rule.checkAlone scope.params scope.pattern = .error error := by
      cases hparams : Rule.checkAlone scope.params scope.pattern with
      | error first =>
        have hpattern : ¬(trim scope.pattern.toList).isEmpty = true := by
          rw [List.isEmpty_iff, trim_eq_nil_iff]
          obtain ⟨c, hc, hblank⟩ := (h.rooted scope hscope).exists_not_isBlank
          intro hall
          rw [hall c hc] at hblank
          cases hblank
        unfold Scope.check at hfails
        rw [if_neg hpattern, hparams] at hfails
        exact hfails
      | ok =>
        have hpasses : scope.check = .ok () := Scope.check_eq_ok_iff.mpr
          ⟨(h.rooted scope hscope).exists_not_isBlank, hparams,
            fun rule hmem => (h.params scope hscope rule hmem).check⟩
        rw [hpasses] at hfails
        cases hfails
    have hrules := h.distinct.rulesOf_pattern hscope
    obtain ⟨hboth, herror⟩ := Rule.checkAlone_eq_error (h.distinct.params scope hscope) hmixed
    exact ⟨some scope.pattern, hrules.symm ▸ hboth, herror⟩

/-- A policy that passes its checks mixes rules in no place. -/
theorem not_mixed_of_check (hcheck : policy.check = .ok ())
    (place : Option String) : ¬Rule.Mixed (policy.rulesOf place) := by
  obtain ⟨hglobals, _, hscopes⟩ := check_eq_ok_iff.mp hcheck
  intro hmixed
  cases place with
  | none => exact hmixed.not_alone (Rule.checkAlone_eq_ok_iff.mp hglobals)
  | some pattern =>
    rw [rulesOf_some] at hmixed
    cases hfind : policy.scopes.find? (·.pattern = pattern) with
    | none =>
      rw [hfind] at hmixed
      exact nomatch hmixed.1
    | some scope =>
      rw [hfind] at hmixed
      have hscope := hscopes scope (List.mem_of_find?_eq_some hfind)
      exact hmixed.not_alone
        (Rule.checkAlone_eq_ok_iff.mp (Scope.check_eq_ok_iff.mp hscope).2.1)

/-- Groups that a text spells make a policy like those that are read. -/
theorem TextSpelled.wellRead {text : String} {declared : List Group}
    (h : TextSpelled plugins text declared) : (declared.foldl extend empty).WellRead := by
  obtain ⟨groups, hsplit, hgroups⟩ := h
  have hdistinct := distinct_of_parse
    (parse_eq_ok_iff.mpr ⟨declared, ⟨groups, hsplit, hgroups⟩, rfl⟩)
  have hrules : ∀ place, ∀ rule ∈ (declared.foldl extend empty).rulesOf place, rule.WellRead := by
    intro place rule hmem
    rcases mem_of_mem_rulesOf_foldl_extend hmem with hnone | ⟨group, hgroup, _, hrule⟩
    · cases place <;> cases hnone
    · obtain ⟨text, _, hspelled⟩ := exists_mem_left_of_forall₂ hgroups hgroup
      exact hspelled.wellRead rule hrule
  refine ⟨hdistinct, ?_, hrules none, ?_⟩
  · intro scope hscope
    rcases mem_patterns_foldl_extend (List.mem_map_of_mem hscope) with
      hnone | ⟨group, hgroup, hplace⟩
    · cases hnone
    · obtain ⟨text, _, hspelled⟩ := exists_mem_left_of_forall₂ hgroups hgroup
      cases hspelled with
      | blank => cases hplace
      | everywhere hne hpathless hlist => cases hplace
      | scope hfind hpattern hlist =>
        rw [← Option.some.inj hplace]
        exact rooted_normalize _
  · intro scope hscope rule hmem
    rw [← hdistinct.rulesOf_pattern hscope] at hmem
    exact hrules _ rule hmem

/-- Where the rules of a place mix, the rule for every parameter and its company come from different
groups, neither of which mixes. -/
theorem TextSpelled.exists_groups_of_mixed {text : String} {declared : List Group}
    (h : TextSpelled plugins text declared) {place : Option String}
    (hmixed : Rule.Mixed ((declared.foldl extend empty).rulesOf place)) :
    ∃ sole ∈ declared, ∃ other ∈ declared, sole ≠ other ∧ sole.place = place ∧
      other.place = place ∧ acceptAllName ∈ sole.rules.map Rule.name ∧
      ∃ name ∈ other.rules.map Rule.name, name ≠ acceptAllName := by
  obtain ⟨groups, _, hgroups⟩ := h
  have hnothing : ∀ name, name ∉ (empty.rulesOf place).map Rule.name := by
    cases place <;> exact fun _ => List.not_mem_nil
  obtain ⟨hstands, name, hname, hother⟩ := hmixed
  obtain ⟨sole, hsole, hsolePlace, hsoleNames⟩ :=
    ((mem_names_foldl_extend declared empty).mp hstands).resolve_left (hnothing _)
  obtain ⟨other, hmem, hotherPlace, hotherNames⟩ :=
    ((mem_names_foldl_extend declared empty).mp hname).resolve_left (hnothing _)
  refine ⟨sole, hsole, other, hmem, ?_, hsolePlace, hotherPlace, hsoleNames, name, hotherNames,
    hother⟩
  rintro rfl
  obtain ⟨_, _, hspelled⟩ := exists_mem_left_of_forall₂ hgroups hsole
  exact hspelled.not_mixed ⟨hsoleNames, name, hotherNames, hother⟩

/-- A policy that was read declares every pattern and every name once, has rooted patterns, trimmed
names and constraints that make sense. It fails to come into force exactly if the rules of some
place mix; the error then says so of such a place, and the rules that mix there come from different
groups of the text. -/
theorem prepares_unless_mixed {text : String} (h : Policy.parse plugins text = .ok policy) :
    policy.WellRead ∧
    (∀ number error, Generation.prepare policy number = .error error →
      ∃ place, Rule.Mixed (policy.rulesOf place) ∧
        error = .invalidRule (.acceptAllNotAlone (placeLabel place))) ∧
    (∀ number place, Rule.Mixed (policy.rulesOf place) →
      ∃ error, Generation.prepare policy number = .error error) ∧
    ∃ declared, TextSpelled plugins text declared ∧ policy = declared.foldl extend empty ∧
      ∀ place, Rule.Mixed (policy.rulesOf place) →
        ∃ sole ∈ declared, ∃ other ∈ declared, sole ≠ other ∧ sole.place = place ∧
          other.place = place ∧ acceptAllName ∈ sole.rules.map Rule.name ∧
          ∃ name ∈ other.rules.map Rule.name, name ≠ acceptAllName := by
  obtain ⟨declared, hspelled, rfl⟩ := parse_eq_ok_iff.mp h
  have hwell := hspelled.wellRead
  refine ⟨hwell, ?_, ?_, declared, hspelled, rfl, fun _ => hspelled.exists_groups_of_mixed⟩
  · intro number error hprepare
    cases hcheck : (declared.foldl extend empty).check with
    | ok =>
      rw [Generation.prepare_eq_ok_iff.mpr ⟨hcheck, rfl⟩] at hprepare
      cases hprepare
    | error first =>
      unfold Generation.prepare at hprepare
      rw [hcheck] at hprepare
      cases hprepare
      exact hwell.mixed_of_check hcheck
  · intro number place hmixed
    cases hprepare : Generation.prepare (declared.foldl extend empty) number with
    | error error => exact ⟨error, rfl⟩
    | ok generation =>
      have hcheck := (Generation.prepare_eq_ok_iff.mp hprepare).1
      exact absurd hmixed (not_mixed_of_check hcheck place)

/-- A policy with one scope that declares `x` and the rule for every parameter. -/
def mixedPolicy : Policy where
  scopes := [⟨"/a", [⟨"x", .any, false⟩, .acceptAll]⟩]

/-- Two groups for one pattern, of which one asks for `x` and the other one for every name, are
read, and what they declare does not come into force. -/
theorem prepares_unless_mixed_mixedPolicy :
    Policy.parse Plugin.builtin "/a?x;/a?*" = .ok mixedPolicy ∧
      Rule.Mixed (mixedPolicy.rulesOf (some "/a")) ∧
      ∃ error, Generation.prepare mixedPolicy 1 = .error error := by
  have hfirst : addGroup Plugin.builtin empty 1 ['/', 'a', '?', 'x'] =
      .ok ⟨[], [⟨"/a", [⟨"x", .any, false⟩]⟩]⟩ := by rfl
  have hsecond : addGroup Plugin.builtin ⟨[], [⟨"/a", [⟨"x", .any, false⟩]⟩]⟩ 2
      ['/', 'a', '?', '*'] = .ok mixedPolicy := by rfl
  have htext : "/a?x;/a?*".toList = ['/', 'a', '?', 'x', ';', '/', 'a', '?', '*'] := by decide
  have hsplit : (Brackets.split isGroupEnd (withoutComments "/a?x;/a?*".toList)).mapError
      (Error.unbalanced 0) = .ok [['/', 'a', '?', 'x'], ['/', 'a', '?', '*']] := by
    rw [htext]
    rfl
  have hparse : Policy.parse Plugin.builtin "/a?x;/a?*" = .ok mixedPolicy :=
    Except.bind_eq_ok_iff.mpr ⟨_, hsplit, Except.bind_eq_ok_iff.mpr
      ⟨_, hfirst, Except.bind_eq_ok_iff.mpr ⟨_, hsecond, rfl⟩⟩⟩
  have hmixed : Rule.Mixed (mixedPolicy.rulesOf (some "/a")) :=
    ⟨by decide, "x", by decide, by decide⟩
  exact ⟨hparse, hmixed, (prepares_unless_mixed hparse).2.2.1 1 (some "/a") hmixed⟩

end Policy

end QueryGate
