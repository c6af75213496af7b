import Mathlib.Data.List.Forall2
import QueryGate.Policy.Parser
import QueryGate.Proofs.Declaration

/-!
# What rule text says

Reading rule text either fails or finds what the text spells. What a text spells is given here as
relations that know neither errors nor the numbers of groups, one for each level of the text:
constraints, rules, lists of rules, groups and whole texts. Reading succeeds with a result exactly
if the text spells it, so that the number that a group bears has no influence on what it declares.
-/

namespace QueryGate

open QueryGate.Text

/-- Wording an error differently makes it no success. -/
theorem Except.mapError_eq_ok_iff {ε ε' α : Type} {f : ε → ε'} {result : Except ε α} {a : α} :
    result.mapError f = .ok a ↔ result = .ok a := by
  cases result <;> simp [Except.mapError]

/-- Steps that are taken for every item succeed if each of them does. -/
theorem Except.mapM_eq_ok_iff {ε α β : Type} {f : α → Except ε β} {xs : List α} {ys : List β} :
    xs.mapM f = .ok ys ↔ List.Forall₂ (fun x y => f x = .ok y) xs ys := by
  induction xs generalizing ys with
  | nil =>
    rw [List.mapM_nil, List.forall₂_nil_left_iff]
    constructor
    · intro h
      cases h
      rfl
    · rintro rfl
      rfl
  | cons x xs ih =>
    rw [List.mapM_cons, Except.bind_eq_ok_iff, List.forall₂_cons_left_iff]
    constructor
    · rintro ⟨y, hy, h⟩
      obtain ⟨rest, hrest, hys⟩ := Except.bind_eq_ok_iff.mp h
      cases hys
      exact ⟨y, rest, hy, ih.mp hrest, rfl⟩
    · rintro ⟨y, rest, hy, hrest, rfl⟩
      exact ⟨y, hy, Except.bind_eq_ok_iff.mpr ⟨rest, ih.mpr hrest, rfl⟩⟩

/-! ## Constraints -/

namespace Constraint

/-- A text is none of those that are constraints without the help of plugins. -/
structure Foreign (body : List Char) : Prop where
  /-- The text does not ask for an empty value. -/
  ne_keyOnly : body ≠ []
  /-- The text does not ask for any value. -/
  ne_any : body ≠ ['*']
  /-- The text does not ask for the callback. -/
  ne_callback : body ≠ "callback".toList
  /-- The text is not of the shape of bounds. -/
  not_bounds : hasBoundsShape body = false

/-- The trimmed text between brackets spells the constraint of the parameter with this name. -/
inductive Spelled (plugins : List Plugin) (name : String) : List Char → Constraint → Prop
  /-- No text asks for an empty value. -/
  | keyOnly : Spelled plugins name [] .keyOnly
  /-- A star asks for any value. -/
  | any : Spelled plugins name ['*'] .any
  /-- A keyword leaves the decision to the callback. -/
  | callback : Spelled plugins name "callback".toList .callback
  /-- Bounds in order ask for a number between them. -/
  | range {body : List Char} {min max : Int} (hbounds : bounds? body = some (min, max))
      (hordered : min ≤ max) : Spelled plugins name body (.range min max)
  /-- The first plugin that has something to say decides. -/
  | plugin {body : List Char} {constraint : Constraint} (hforeign : Foreign body)
      (hplugins : ofPlugins plugins name (String.ofList body) = .ok (some constraint)) :
      Spelled plugins name body constraint
  /-- What no plugin knows is a list of values. -/
  | oneOf {body : List Char} (hforeign : Foreign body)
      (hplugins : ofPlugins plugins name (String.ofList body) = .ok none)
      (hvalues : valueList body ≠ []) : Spelled plugins name body (.oneOf (valueList body))

/-- What becomes of a text about which no plugin has something to say: a list of values, if it has
any. -/
def ofValues (group : Nat) (name : String) (body : List Char) : Except Error Constraint :=
  if (valueList body).isEmpty then .error (.parse group (.emptyValues name))
  else .ok (.oneOf (valueList body))

variable {plugins : List Plugin} {name : String} {body : List Char} {constraint : Constraint}
  {group : Nat}

/-- A text that is no constraint by itself is left to the plugins. -/
theorem parse_of_foreign (h : Foreign body) : Constraint.parse plugins group name body =
    match ofPlugins plugins name (String.ofList body) with
    | .error error => .error error
    | .ok (some constraint) => .ok constraint
    | .ok none => ofValues group name body := by
  have hempty : ¬body.isEmpty = true := by simpa using h.ne_keyOnly
  have hshape : ¬hasBoundsShape body = true := by simp [h.not_bounds]
  unfold Constraint.parse
  exact (if_neg hempty).trans ((if_neg h.ne_any).trans ((if_neg h.ne_callback).trans
    (if_neg hshape)))

/-- A text of the shape of bounds becomes a range or is refused. -/
theorem parse_of_shape (h : hasBoundsShape body = true) :
    Constraint.parse plugins group name body =
      match bounds? body with
      | none => .error (.parse group (.boundsOutOfRange (String.ofList body)))
      | some (min, max) =>
        if max < min then .error (.parse group (.boundsReversed name min max))
        else .ok (.range min max) := by
  have hne : ∀ other : List Char, hasBoundsShape other = false → body ≠ other := by
    rintro other hother rfl
    rw [hother] at h
    cases h
  have hempty : ¬body.isEmpty = true := by simpa using hne [] (by decide)
  have hstar := hne ['*'] (by decide)
  have hkeyword := hne "callback".toList (by decide)
  unfold Constraint.parse
  exact (if_neg hempty).trans ((if_neg hstar).trans ((if_neg hkeyword).trans (if_pos h)))

/-- Bounds that can be read have the shape of bounds. -/
theorem hasBoundsShape_of_bounds? {bounds : Int × Int} (h : bounds? body = some bounds) :
    hasBoundsShape body = true := by
  unfold bounds? at h
  obtain ⟨parts, hparts, _⟩ := Option.bind_eq_some_iff.mp h
  unfold hasBoundsShape
  rw [hparts]
  rfl

/-- A constraint is read exactly if the text spells it. -/
theorem parse_eq_ok_iff : Constraint.parse plugins group name body = .ok constraint ↔
    Spelled plugins name body constraint := by
  constructor
  · intro h
    by_cases hshape : hasBoundsShape body = true
    · rw [parse_of_shape hshape] at h
      split at h
      · cases h
      next min max hbounds =>
      split at h
      · cases h
      next hordered =>
      cases h
      exact .range hbounds (by omega)
    by_cases hkeyOnly : body = []
    · subst hkeyOnly
      cases h
      exact .keyOnly
    by_cases hany : body = ['*']
    · subst hany
      cases h
      exact .any
    by_cases hcallback : body = "callback".toList
    · subst hcallback
      cases h
      exact .callback
    have hforeign : Foreign body := ⟨hkeyOnly, hany, hcallback, by simpa using hshape⟩
    rw [parse_of_foreign hforeign] at h
    split at h
    · cases h
    next hplugins =>
      cases h
      exact .plugin hforeign hplugins
    next hplugins =>
      unfold ofValues at h
      split at h
      · cases h
      next hvalues =>
      cases h
      exact .oneOf hforeign hplugins (by simpa using hvalues)
  · intro h
    cases h with
    | keyOnly => rfl
    | any => rfl
    | callback => rfl
    | range hbounds hordered =>
      rw [parse_of_shape (hasBoundsShape_of_bounds? hbounds), hbounds]
      exact if_neg (by omega)
    | plugin hforeign hplugins =>
      rw [parse_of_foreign hforeign, hplugins]
    | oneOf hforeign hplugins hvalues =>
      rw [parse_of_foreign hforeign, hplugins]
      exact if_neg (by simpa using hvalues)

end Constraint

/-! ## Rules -/

namespace Rule

/-- A trimmed text spells a rule: a name alone, or a name, `=` and a constraint in brackets, with
or without a `!` that inverts the rule. -/
inductive Spelled (plugins : List Plugin) : List Char → Rule → Prop
  /-- A name alone asks for nothing. -/
  | bare {spec : List Char} (hfind : Brackets.find '=' spec = .ok none) (hopening : '[' ∉ spec)
      (hclosing : ']' ∉ spec) : Spelled plugins spec ⟨String.ofList spec, .any, false⟩
  /-- A constraint stands in brackets behind the `=`, and nothing follows it. -/
  | constrained {spec before after name rest body : List Char} {inverted : Bool}
      {constraint : Constraint} (hfind : Brackets.find '=' spec = .ok (some (before, after)))
      (hname : splitInversion (trim before) = (name, inverted)) (hnamed : name ≠ [])
      (hafter : trim after = '[' :: rest) (hclose : Brackets.close rest = .ok (body, []))
      (hconstraint : Constraint.Spelled plugins (String.ofList name) (trim body) constraint) :
      Spelled plugins spec ⟨String.ofList name, constraint, inverted⟩

variable {plugins : List Plugin} {rule : Rule} {rules : List Rule}

/-- A rule is read exactly if the text spells it. -/
theorem parse_eq_ok_iff {group : Nat} {spec : List Char} :
    Rule.parse plugins group spec = .ok rule ↔ Spelled plugins spec rule := by
  unfold Rule.parse
  rw [Except.bind_eq_ok_iff]
  constructor
  · rintro ⟨found, hfind, h⟩
    have hfind := Except.mapError_eq_ok_iff.mp hfind
    cases found with
    | none =>
      dsimp only at h
      split at h
      · cases h
      · next hbrackets =>
        cases h
        rw [Bool.or_eq_true, List.contains_iff_mem, List.contains_iff_mem, not_or] at hbrackets
        exact .bare hfind hbrackets.1 hbrackets.2
    | some parts =>
      obtain ⟨before, after⟩ := parts
      dsimp only at h
      split at h
      · cases h
      next hnamed =>
      split at h
      · next rest hafter =>
        obtain ⟨⟨body, trailing⟩, hclose, h⟩ := Except.bind_eq_ok_iff.mp h
        dsimp only at h
        split at h
        · cases h
        next htrailing =>
        obtain ⟨constraint, hconstraint, h⟩ := Except.bind_eq_ok_iff.mp h
        cases h
        have hnil : trailing = [] := by simpa using htrailing
        subst hnil
        exact .constrained hfind rfl (by simpa using hnamed) hafter
          (Except.mapError_eq_ok_iff.mp hclose) (Constraint.parse_eq_ok_iff.mp hconstraint)
      · cases h
  · intro h
    cases h with
    | bare hfind hopening hclosing =>
      refine ⟨none, Except.mapError_eq_ok_iff.mpr hfind, ?_⟩
      dsimp only
      rw [if_neg (by simp [hopening, hclosing])]
      rfl
    | @constrained before after name rest body inverted constraint hfind hname hnamed hafter
        hclose hconstraint =>
      refine ⟨some (before, after), Except.mapError_eq_ok_iff.mpr hfind, ?_⟩
      dsimp only
      rw [hname, hafter]
      dsimp only
      rw [if_neg (by simpa using hnamed)]
      refine Except.bind_eq_ok_iff.mpr ⟨(body, []), Except.mapError_eq_ok_iff.mpr hclose, ?_⟩
      exact Except.bind_eq_ok_iff.mpr ⟨constraint, Constraint.parse_eq_ok_iff.mpr hconstraint, rfl⟩

/-- A text spells a list of rules, of which each stands between two `&` and blank ones do not count.
The rule for every parameter is in no list with another one. -/
structure ListSpelled (plugins : List Plugin) (params : List Char) (rules : List Rule) : Prop where
  /-- The parts of the text spell the rules. -/
  specs : ∃ specs, Brackets.split (· == '&') params = .ok specs ∧
    List.Forall₂ (Spelled plugins) ((specs.map trim).filter fun spec => !spec.isEmpty) rules
  /-- The rule for every parameter has no company. -/
  alone : ∀ rule ∈ rules, rule.name = acceptAllName → rules.length ≤ 1

/-- Rules are read exactly if the text spells them. -/
theorem parseList_eq_ok_iff {group : Nat} {params : List Char} :
    Rule.parseList plugins group params = .ok rules ↔ ListSpelled plugins params rules := by
  unfold Rule.parseList
  rw [Except.bind_eq_ok_iff]
  constructor
  · rintro ⟨specs, hsplit, h⟩
    obtain ⟨read, hread, h⟩ := Except.bind_eq_ok_iff.mp h
    dsimp only at h
    split at h
    · cases h
    next hmixed =>
    cases h
    refine ⟨⟨specs, Except.mapError_eq_ok_iff.mp hsplit, ?_⟩, ?_⟩
    · exact (Except.mapM_eq_ok_iff.mp hread).imp fun _ _ => parse_eq_ok_iff.mp
    · exact not_not.mp (mt company_iff.mpr hmixed)
  · rintro ⟨⟨specs, hsplit, hspecs⟩, halone⟩
    refine ⟨specs, Except.mapError_eq_ok_iff.mpr hsplit, Except.bind_eq_ok_iff.mpr ⟨rules, ?_, ?_⟩⟩
    · exact Except.mapM_eq_ok_iff.mpr (hspecs.imp fun _ _ => parse_eq_ok_iff.mpr)
    · dsimp only
      rw [if_neg fun hmixed => company_iff.mp hmixed halone]
      rfl

end Rule

/-! ## Groups and texts -/

namespace Policy

/-- What a group of rule text declares. -/
inductive Group where
  /-- Rules for every path. -/
  | everywhere (rules : List Rule)
  /-- Rules for the paths that a pattern matches. -/
  | scope (pattern : String) (rules : List Rule)

/-- Declares what a group says. -/
def extend (policy : Policy) : Group → Policy
  | .everywhere rules => rules.foldl declare policy
  | .scope pattern rules => policy.declareScope pattern rules

/-- A pattern starts like a path or with a wildcard. -/
def Rooted (pattern : String) : Prop :=
  pattern.toList.head? = some '/' ∨ pattern.toList.head? = some '*'

/-- The form in which patterns are kept starts like a path or with a wildcard. -/
theorem rooted_normalize (text : List Char) :
    Rooted (String.ofList (Pattern.normalize text)) := by
  unfold Rooted Pattern.normalize
  rw [String.toList_ofList]
  dsimp only
  split
  · split
    · next hhead => simpa using hhead
    · exact .inl rfl
  · exact .inl rfl

/-- Whether the text before the first `?` of a group is a pattern. -/
def isPattern (group head : List Char) : Bool :=
  (group.head? == some '/' || group.head? == some '*') ||
    (cutAt? '/' head).any fun (before, _) => !before.contains '=' && group.contains '['

/-- A group has no pattern: there is no `?` in it, or what stands before it is none. -/
def Pathless (group : List Char) : Prop :=
  Brackets.find '?' group = .ok none ∨
    ∃ head params, Brackets.find '?' group = .ok (some (head, params)) ∧
      isPattern group head = false ∧ trim head ≠ []

/-- A trimmed text spells a group: rules for every path, or a pattern, `?` and rules. -/
inductive GroupSpelled (plugins : List Plugin) : List Char → Group → Prop
  /-- No text declares nothing. -/
  | blank : GroupSpelled plugins [] (.everywhere [])
  /-- A group without a pattern is a list of rules. -/
  | everywhere {group : List Char} {rules : List Rule} (hne : group ≠ []) (hgroup : Pathless group)
      (hrules : Rule.ListSpelled plugins group rules) :
      GroupSpelled plugins group (.everywhere rules)
  /-- The rules of a group with a pattern stand behind its `?`. -/
  | scope {group head params : List Char} {rules : List Rule}
      (hfind : Brackets.find '?' group = .ok (some (head, params)))
      (hpattern : isPattern group head = true) (hrules : Rule.ListSpelled plugins params rules) :
      GroupSpelled plugins group (.scope (String.ofList (Pattern.normalize head)) rules)

variable {plugins : List Plugin} {policy : Policy}

/-- A group is cut exactly at the first `?` that has a pattern before it. -/
theorem splitGroup_eq_ok_iff {number : Nat} {group : List Char}
    {parts : Option (List Char × List Char)} :
    splitGroup number group = .ok parts ↔
      Pathless group ∧ parts = none ∨
        ∃ head params, Brackets.find '?' group = .ok (some (head, params)) ∧
          isPattern group head = true ∧ parts = some (head, params) := by
  unfold splitGroup
  rw [Except.bind_eq_ok_iff]
  constructor
  · rintro ⟨found, hfind, h⟩
    have hfind := Except.mapError_eq_ok_iff.mp hfind
    cases found with
    | none =>
      cases h
      exact .inl ⟨.inl hfind, rfl⟩
    | some cut =>
      obtain ⟨head, params⟩ := cut
      dsimp only at h
      split at h
      · next hpattern =>
        cases h
        exact .inr ⟨head, params, hfind, hpattern, rfl⟩
      next hpattern =>
      split at h
      · cases h
      · next hhead =>
        cases h
        refine .inl ⟨.inr ⟨head, params, hfind, ?_, by simpa using hhead⟩, rfl⟩
        exact Bool.eq_false_iff.mpr hpattern
  · rintro (⟨hnone | ⟨head, params, hfind, hpattern, hhead⟩, rfl⟩ |
      ⟨head, params, hfind, hpattern, rfl⟩)
    · exact ⟨none, Except.mapError_eq_ok_iff.mpr hnone, rfl⟩
    · refine ⟨some (head, params), Except.mapError_eq_ok_iff.mpr hfind, ?_⟩
      dsimp only
      unfold isPattern at hpattern
      rw [if_neg (Bool.eq_false_iff.mp hpattern), if_neg (by simpa using hhead)]
      rfl
    · refine ⟨some (head, params), Except.mapError_eq_ok_iff.mpr hfind, ?_⟩
      exact if_pos hpattern

/-- A group is read exactly if the text spells one, and then it is declared. -/
theorem addGroup_eq_ok_iff {number : Nat} {group : List Char} {next : Policy} :
    policy.addGroup plugins number group = .ok next ↔
      ∃ declared, GroupSpelled plugins group declared ∧ next = policy.extend declared := by
  unfold addGroup
  constructor
  · intro h
    split at h
    · next hempty =>
      cases h
      exact ⟨.everywhere [], List.isEmpty_iff.mp hempty ▸ .blank, rfl⟩
    next hempty =>
    obtain ⟨parts, hparts, h⟩ := Except.bind_eq_ok_iff.mp h
    rcases splitGroup_eq_ok_iff.mp hparts with
      ⟨hgroup, rfl⟩ | ⟨head, params, hfind, hpattern, rfl⟩
    · obtain ⟨rules, hrules, h⟩ := Except.bind_eq_ok_iff.mp h
      cases h
      exact ⟨.everywhere rules, .everywhere (by simpa using hempty) hgroup
        (Rule.parseList_eq_ok_iff.mp hrules), rfl⟩
    · obtain ⟨rules, hrules, h⟩ := Except.bind_eq_ok_iff.mp h
      cases h
      exact ⟨_, .scope hfind hpattern (Rule.parseList_eq_ok_iff.mp hrules), rfl⟩
  · rintro ⟨declared, hdeclared, rfl⟩
    cases hdeclared with
    | blank => rfl
    | everywhere hne hgroup hrules =>
      rw [if_neg (by simpa using hne)]
      refine Except.bind_eq_ok_iff.mpr ⟨none, splitGroup_eq_ok_iff.mpr (.inl ⟨hgroup, rfl⟩), ?_⟩
      exact Except.bind_eq_ok_iff.mpr ⟨_, Rule.parseList_eq_ok_iff.mpr hrules, rfl⟩
    | scope hfind hpattern hrules =>
      have hne : group ≠ [] := by
        rintro rfl
        cases hfind
      rw [if_neg (by simpa using hne)]
      refine Except.bind_eq_ok_iff.mpr
        ⟨_, splitGroup_eq_ok_iff.mpr (.inr ⟨_, _, hfind, hpattern, rfl⟩), ?_⟩
      exact Except.bind_eq_ok_iff.mpr ⟨_, Rule.parseList_eq_ok_iff.mpr hrules, rfl⟩

/-- Groups are read one after the other exactly if each text spells one. -/
theorem foldlM_addGroup_eq_ok_iff {groups : List (List Char)} {start : Nat} {next : Policy} :
    (groups.zipIdx start).foldlM
        (fun policy (group, number) => policy.addGroup plugins number (trim group)) policy =
        .ok next ↔
      ∃ declared, List.Forall₂ (GroupSpelled plugins) (groups.map trim) declared ∧
        next = declared.foldl extend policy := by
  induction groups generalizing start policy with
  | nil =>
    constructor
    · intro h
      cases h
      exact ⟨[], .nil, rfl⟩
    · rintro ⟨declared, hdeclared, rfl⟩
      cases hdeclared
      rfl
  | cons group groups ih =>
    rw [List.zipIdx_cons, List.foldlM_cons, Except.bind_eq_ok_iff]
    constructor
    · rintro ⟨middle, hgroup, hrest⟩
      obtain ⟨first, hfirst, rfl⟩ := addGroup_eq_ok_iff.mp hgroup
      obtain ⟨others, hothers, rfl⟩ := ih.mp hrest
      exact ⟨first :: others, .cons hfirst hothers, rfl⟩
    · rintro ⟨declared, hdeclared, rfl⟩
      cases hdeclared with
      | cons hfirst hothers =>
        exact ⟨_, addGroup_eq_ok_iff.mpr ⟨_, hfirst, rfl⟩, ih.mpr ⟨_, hothers, rfl⟩⟩

/-- A text spells the groups that are declared by it. -/
def TextSpelled (plugins : List Plugin) (text : String) (declared : List Group) : Prop :=
  ∃ groups, Brackets.split isGroupEnd (withoutComments text.toList) = .ok groups ∧
    List.Forall₂ (GroupSpelled plugins) (groups.map trim) declared

/-- A text is read exactly if it spells groups, and then they are declared in order. -/
theorem parse_eq_ok_iff {text : String} :
    Policy.parse plugins text = .ok policy ↔
      ∃ declared, TextSpelled plugins text declared ∧ policy = declared.foldl extend empty := by
  unfold Policy.parse
  rw [Except.bind_eq_ok_iff]
  constructor
  · rintro ⟨groups, hsplit, h⟩
    obtain ⟨declared, hdeclared, rfl⟩ := foldlM_addGroup_eq_ok_iff.mp h
    exact ⟨declared, ⟨groups, Except.mapError_eq_ok_iff.mp hsplit, hdeclared⟩, rfl⟩
  · rintro ⟨declared, ⟨groups, hsplit, hdeclared⟩, rfl⟩
    exact ⟨groups, Except.mapError_eq_ok_iff.mpr hsplit,
      foldlM_addGroup_eq_ok_iff.mpr ⟨declared, hdeclared, rfl⟩⟩

end Policy

end QueryGate
