import QueryGate.Proofs.Merging
import QueryGate.Proofs.RenderedConstraint

/-!
# Policies as text

A policy whose constraints need no plugin has a text with one group for each rule that applies on
every path and one for each scope. Nothing in the text of a constraint is taken for a delimiter,
because it stands in brackets and hides the brackets in it, and nothing in names and patterns is,
because they have none. Reading the text gives the policy back.
-/

namespace QueryGate

open QueryGate.Text QueryGate.Brackets

/-! ## Text in one line -/

/-- A text that is no comment and fills a line without blanks around it. -/
structure OneLine (cs : List Char) : Prop where
  /-- There is some text. -/
  ne_nil : cs ≠ []
  /-- No blanks stand around the text. -/
  trimmed : Trimmed cs
  /-- No line ends in the text. -/
  lineFeed_not_mem : '\n' ∉ cs
  /-- The text does not start like a comment. -/
  head?_ne : cs.head? ≠ some '#'

namespace OneLine

variable {cs ds : List Char}

/-- A text without blanks is in one line. -/
theorem of_forall (hne : cs ≠ []) (h : ∀ c ∈ cs, isBlank c = false) (hhead : cs.head? ≠ some '#') :
    OneLine cs :=
  ⟨hne, trimmed_of_forall h, fun hmem => absurd (h _ hmem) (by decide), hhead⟩

/-- One character is in one line, unless it is a blank or starts a comment. -/
theorem singleton {c : Char} (hblank : isBlank c = false) (hcomment : c ≠ '#') : OneLine [c] :=
  .of_forall (List.cons_ne_nil _ _) (List.forall_mem_singleton.mpr hblank)
    fun hhead => hcomment (Option.some.inj hhead)

/-- Two texts in one line make one. -/
theorem append (hcs : OneLine cs) (hds : OneLine ds) : OneLine (cs ++ ds) := by
  refine ⟨?_, hcs.trimmed.append hds.trimmed hcs.ne_nil hds.ne_nil, ?_, ?_⟩
  · exact List.append_ne_nil_of_left_ne_nil hcs.ne_nil ds
  · rw [List.mem_append, not_or]
    exact ⟨hcs.lineFeed_not_mem, hds.lineFeed_not_mem⟩
  · rw [List.head?_append_of_ne_nil _ hcs.ne_nil]
    exact hcs.head?_ne

/-- Text in brackets is in one line if no line ends in it. -/
theorem bracketed (h : '\n' ∉ cs) : OneLine ('[' :: (cs ++ [']'])) := by
  refine ⟨List.cons_ne_nil _ _, ⟨?_, ?_⟩, ?_, ?_⟩
  · intro c hc
    rw [← Option.mem_some.mp hc]
    decide
  · intro c hc
    rw [← List.cons_append, List.getLast?_concat] at hc
    rw [← Option.mem_some.mp hc]
    decide
  · simpa using h
  · exact fun hhead => absurd (Option.some.inj hhead) (by decide)

/-- Texts in one line make one when they are joined with a character. -/
theorem intercalate {sep : Char} (hsep : isBlank sep = false) {parts : List (List Char)}
    (hne : parts ≠ []) (hparts : ∀ part ∈ parts, OneLine part) :
    OneLine ([sep].intercalate parts) := by
  obtain ⟨hjoinedNe, htrimmed⟩ := trimmed_intercalate hsep hne fun part hpart =>
    ⟨(hparts part hpart).ne_nil, (hparts part hpart).trimmed⟩
  refine ⟨hjoinedNe, htrimmed, ?_, ?_⟩
  · intro hmem
    rcases mem_of_mem_intercalate hmem with hmem | ⟨part, hpart, hmem⟩
    · rw [← List.mem_singleton.mp hmem] at hsep
      exact absurd hsep (by decide)
    · exact (hparts part hpart).lineFeed_not_mem hmem
  · obtain ⟨part, parts, rfl⟩ := List.exists_cons_of_ne_nil hne
    have hpart := hparts part (List.mem_cons_self ..)
    obtain ⟨rest, hrest⟩ := exists_intercalate_cons [sep] part parts
    rw [hrest, List.head?_append_of_ne_nil _ hpart.ne_nil]
    exact hpart.head?_ne

end OneLine

/-- A text in one line that is no comment is left when comments are taken away. -/
theorem Policy.withoutComments_of_oneLine {cs : List Char} (h : OneLine cs) :
    withoutComments cs = cs := by
  have hcomment : isComment cs = false := by
    unfold isComment
    rw [h.trimmed.trimStart_eq]
    exact beq_eq_false_iff_ne.mpr h.head?_ne
  have hempty : cs.isEmpty = false := List.isEmpty_eq_false_iff.mpr h.ne_nil
  unfold withoutComments lines
  rw [List.splitOn_eq_singleton h.lineFeed_not_mem]
  simp [hcomment, hempty]

/-! ## Names -/

/-- A text has no blanks and none of some signs. -/
def Text.Bare (signs cs : List Char) : Prop :=
  ∀ c ∈ cs, isBlank c = false ∧ c ∉ signs

instance (signs cs : List Char) : Decidable (Bare signs cs) :=
  List.decidableBAll _ cs

/-- A text without brackets and backslashes is passed over if it lacks what is wanted. -/
theorem passes_of_bare {signs cs : List Char} {wanted : Char → Bool} (h : Bare signs cs)
    (hplain : ∀ c, c ∉ signs → textSigns.Plain c)
    (hwanted : ∀ c, wanted c = true → c ∈ '\n' :: signs) : Passes wanted 0 cs 0 := by
  refine .of_forall fun c hc => ⟨hplain c (h c hc).2, ?_⟩
  by_contra hfound
  rcases List.mem_cons.mp (hwanted c (Bool.of_not_eq_false hfound)) with rfl | hsign
  · exact absurd (h _ hc).1 (by decide)
  · exact (h c hc).2 hsign

/-! ## Rules -/

namespace Rule

/-- The signs that no name has. -/
def nameSigns : List Char :=
  ['[', ']', '\\', '&', ';', '=', '!', '?', '#', '/', '*']

/-- A rule with a plain name whose constraint needs no plugin. -/
structure Native (rule : Rule) : Prop where
  /-- The rule has a name. -/
  named : rule.name ≠ ""
  /-- The name has no blanks and no signs. -/
  bare : Bare nameSigns rule.name.toList
  /-- The constraint needs no plugin. -/
  constraint : rule.constraint.Native

instance (rule : Rule) : Decidable rule.Native :=
  decidable_of_iff (rule.name ≠ "" ∧ Bare nameSigns rule.name.toList ∧ rule.constraint.Native)
    ⟨fun ⟨hnamed, hbare, hconstraint⟩ => ⟨hnamed, hbare, hconstraint⟩,
      fun ⟨hnamed, hbare, hconstraint⟩ => ⟨hnamed, hbare, hconstraint⟩⟩

/-- The rules of one place are native, or the rule for every parameter is the only one. -/
def AllNative (rules : List Rule) : Prop :=
  rules = [acceptAll] ∨ ∀ rule ∈ rules, rule.Native

/-- The `!` of an inverted rule. -/
def mark (rule : Rule) : List Char :=
  if rule.inverted then ['!'] else []

/-- The text of a rule. -/
def render (rule : Rule) : List Char :=
  if rule.isAcceptAll then ['*']
  else rule.name.toList ++ rule.mark ++ '=' :: '[' :: (rule.constraint.render ++ [']'])

/-- The text of the rules of one place. -/
def renderList (rules : List Rule) : List Char :=
  ['&'].intercalate (rules.map render)

variable {plugins : List Plugin} {rule : Rule} {rules : List Rule}

/-- A native rule is not the one for every parameter. -/
theorem Native.name_ne (h : rule.Native) : rule.name ≠ acceptAllName := by
  intro hname
  have hbare := h.bare
  rw [hname] at hbare
  exact (hbare '*' (by decide)).2 (by decide)

/-- The text of a native rule. -/
theorem Native.render_eq (h : rule.Native) : rule.render =
    rule.name.toList ++ rule.mark ++ '=' :: '[' :: (rule.constraint.render ++ [']']) :=
  if_neg (by simpa [isAcceptAll] using h.name_ne)

/-- Characters that are no signs of names are no signs of brackets. -/
theorem plain_of_not_mem_nameSigns {c : Char} (h : c ∉ nameSigns) : textSigns.Plain c := by
  refine ⟨?_, ?_, ?_⟩
  all_goals
    rintro rfl
    exact h (by decide)

/-- The name of a native rule and its mark are in one line. -/
theorem Native.oneLine_name (h : rule.Native) : OneLine (rule.name.toList ++ rule.mark) := by
  have hname : OneLine rule.name.toList := by
    refine .of_forall (mt String.toList_eq_nil_iff.mp h.named) (fun c hc => (h.bare c hc).1) ?_
    intro hhead
    exact (h.bare '#' (List.mem_of_mem_head? hhead)).2 (by decide)
  unfold mark
  split
  · exact hname.append (.singleton (by decide) (by decide))
  · rwa [List.append_nil]

/-- The text of a native rule is in one line. -/
theorem Native.oneLine_render (h : rule.Native) : OneLine rule.render := by
  have hsign : OneLine ['='] := .singleton (by decide) (by decide)
  rw [h.render_eq]
  exact h.oneLine_name.append (hsign.append (.bracketed h.constraint.lineFeed_not_mem_render))

/-- The name of a native rule and its mark are passed over by every search for other signs. -/
theorem Native.passes_name (h : rule.Native) {wanted : Char → Bool}
    (hwanted : ∀ c, wanted c = true → c ∈ ['&', ';', '?', '=', '\n']) :
    Passes wanted 0 (rule.name.toList ++ rule.mark) 0 := by
  have hname : Passes wanted 0 rule.name.toList 0 := by
    have hsigns : ['&', ';', '?', '=', '\n'] ⊆ '\n' :: nameSigns := by decide
    exact passes_of_bare h.bare (fun _ => plain_of_not_mem_nameSigns) fun c hc =>
      hsigns (hwanted c hc)
  have hmark : wanted '!' = false :=
    Bool.eq_false_iff.mpr fun hc => absurd (hwanted _ hc) (by decide)
  unfold mark
  split
  · exact hname.append (.plain (by decide) (fun _ => hmark) (.nil 0))
  · rwa [List.append_nil]

/-- The text of a native rule is passed over by every search for delimiters of rules and groups. -/
theorem Native.passes_render (h : rule.Native) {wanted : Char → Bool}
    (hwanted : ∀ c, wanted c = true → c ∈ ['&', ';', '?', '\n']) :
    Passes wanted 0 rule.render 0 := by
  have hmore : ['&', ';', '?', '\n'] ⊆ ['&', ';', '?', '=', '\n'] := by decide
  have hequals : wanted '=' = false :=
    Bool.eq_false_iff.mpr fun hc => absurd (hwanted _ hc) (by decide)
  rw [h.render_eq]
  refine (h.passes_name fun c hc => hmore (hwanted c hc)).append ?_
  exact .plain (by decide) (fun _ => hequals) (.bracketed h.constraint.passes_render)

/-- The mark of an inverted rule is told from its name. -/
theorem Native.splitInversion_name (h : rule.Native) :
    splitInversion (rule.name.toList ++ rule.mark) = (rule.name.toList, rule.inverted) := by
  unfold splitInversion mark
  cases rule.inverted with
  | true =>
    have htrim : trim rule.name.toList = rule.name.toList :=
      (trimmed_of_forall fun c hc => (h.bare c hc).1).trim_eq
    rw [if_pos rfl, if_pos List.getLast?_concat, List.dropLast_concat, htrim]
  | false =>
    have hlast : rule.name.toList.getLast? ≠ some '!' := fun hlast =>
      (h.bare '!' (List.mem_of_getLast? hlast)).2 (by decide)
    rw [if_neg Bool.false_ne_true, List.append_nil, if_neg hlast]

/-- The text of a native rule spells it. -/
theorem Native.spelled_render (hplugins : ∀ plugin ∈ plugins, plugin.LeavesEscapes)
    (h : rule.Native) : Spelled plugins rule.render rule := by
  have hbracketed := OneLine.bracketed h.constraint.lineFeed_not_mem_render
  have hfind : find '=' rule.render = .ok (some (rule.name.toList ++ rule.mark,
      '[' :: (rule.constraint.render ++ [']']))) := by
    rw [h.render_eq]
    refine find_append (by decide) (h.passes_name fun c hc => ?_) _
    rw [beq_iff_eq.mp hc]
    decide
  have hname : splitInversion (trim (rule.name.toList ++ rule.mark)) =
      (rule.name.toList, rule.inverted) := by
    rw [h.oneLine_name.trimmed.trim_eq]
    exact h.splitInversion_name
  have hconstraint : Constraint.Spelled plugins (String.ofList rule.name.toList)
      (trim rule.constraint.render) rule.constraint := by
    rw [h.constraint.trimmed_render.trim_eq]
    exact h.constraint.spelled_render hplugins _
  have hspelled := Spelled.constrained hfind hname (mt String.toList_eq_nil_iff.mp h.named)
    hbracketed.trimmed.trim_eq (close_append h.constraint.passes_render []) hconstraint
  rwa [String.ofList_toList] at hspelled

/-! ## Rules of one place -/

/-- What is known of the text of a rule in a place whose rules are native. -/
structure Sound (plugins : List Plugin) (rule : Rule) : Prop where
  /-- The text is in one line. -/
  oneLine : OneLine rule.render
  /-- The text is passed over by every search for delimiters of rules and groups. -/
  passes : ∀ wanted : Char → Bool, (∀ c, wanted c = true → c ∈ ['&', ';', '?', '\n']) →
    Passes wanted 0 rule.render 0
  /-- The text spells the rule. -/
  spelled : Spelled plugins rule.render rule

/-- The text of the rule for every parameter is sound. -/
theorem sound_acceptAll (plugins : List Plugin) : Sound plugins acceptAll where
  oneLine := .singleton (by decide) (by decide)
  passes wanted hwanted := .plain (by decide)
    (fun _ => Bool.eq_false_iff.mpr fun hc => absurd (hwanted _ hc) (by decide)) (.nil 0)
  spelled := .bare rfl (by decide) (by decide)

/-- The texts of native rules are sound, and so is that of the rule for every parameter. -/
theorem AllNative.sound (h : AllNative rules)
    (hplugins : ∀ plugin ∈ plugins, plugin.LeavesEscapes) : ∀ rule ∈ rules, Sound plugins rule := by
  rcases h with rfl | hnative
  · exact List.forall_mem_singleton.mpr (sound_acceptAll plugins)
  · intro rule hmem
    have hrule := hnative rule hmem
    exact ⟨hrule.oneLine_render, fun _ => hrule.passes_render, hrule.spelled_render hplugins⟩

/-- Among native rules, the one for every parameter is alone. -/
theorem AllNative.alone (h : AllNative rules) :
    ∀ rule ∈ rules, rule.name = acceptAllName → rules.length ≤ 1 := by
  rcases h with rfl | hnative
  · exact fun _ _ _ => le_rfl
  · exact fun rule hmem hname => absurd hname (hnative rule hmem).name_ne

/-- The text of rules spells them, if those of each rule are sound. -/
theorem listSpelled_renderList (hsound : ∀ rule ∈ rules, Sound plugins rule)
    (halone : ∀ rule ∈ rules, rule.name = acceptAllName → rules.length ≤ 1) :
    ListSpelled plugins (renderList rules) rules := by
  refine ⟨?_, halone⟩
  by_cases hne : rules = []
  · subst hne
    exact ⟨[[]], rfl, .nil⟩
  have hsplit : split (· == '&') (renderList rules) = .ok (rules.map render) := by
    refine split_intercalate rfl (by decide) (by simpa using hne) fun text htext => ?_
    obtain ⟨rule, hmem, rfl⟩ := List.mem_map.mp htext
    refine (hsound rule hmem).passes _ fun c hc => ?_
    rw [beq_iff_eq.mp hc]
    decide
  have htrim : (rules.map render).map trim = rules.map render := by
    rw [List.map_map]
    exact List.map_congr_left fun rule hmem => (hsound rule hmem).oneLine.trimmed.trim_eq
  have hkept : (rules.map render).filter (fun text => !text.isEmpty) = rules.map render := by
    refine List.filter_eq_self.mpr fun text htext => ?_
    obtain ⟨rule, hmem, rfl⟩ := List.mem_map.mp htext
    simpa using (hsound rule hmem).oneLine.ne_nil
  refine ⟨rules.map render, hsplit, ?_⟩
  rw [htrim, hkept, List.forall₂_map_left_iff, List.forall₂_same]
  exact fun rule hmem => (hsound rule hmem).spelled

end Rule

/-! ## Groups -/

/-- The text of a scope. -/
def Scope.render (scope : Scope) : List Char :=
  scope.pattern.toList ++ '?' :: Rule.renderList scope.params

namespace Policy

/-- The signs that no pattern has. -/
def patternSigns : List Char :=
  ['[', ']', '\\', ';', '?']

/-- A pattern in the form in which patterns are kept, without blanks and signs. -/
structure NativePattern (pattern : String) : Prop where
  /-- The pattern is in the form in which patterns are kept. -/
  normal : Pattern.normalize pattern.toList = pattern.toList
  /-- The pattern has no blanks and no signs. -/
  bare : Bare patternSigns pattern.toList

/-- A policy that declares everything once, with native rules under native patterns. -/
structure Native (policy : Policy) : Prop where
  /-- No pattern is declared twice, and no name twice in one place. -/
  distinct : policy.Distinct
  /-- The rules for every path are native. -/
  globals : Rule.AllNative policy.globals
  /-- The rules of each scope are native. -/
  params : ∀ scope ∈ policy.scopes, Rule.AllNative scope.params
  /-- The patterns are native. -/
  patterns : ∀ scope ∈ policy.scopes, NativePattern scope.pattern

/-- The texts of the groups of a policy: one for each rule for every path and one for each scope. -/
def renderGroups (policy : Policy) : List (List Char) :=
  policy.globals.map Rule.render ++ policy.scopes.map Scope.render

/-- The text of a policy. -/
def render (policy : Policy) : String :=
  String.ofList ([';'].intercalate policy.renderGroups)

/-- The groups of a policy: one for each rule for every path and one for each scope. -/
def groups (policy : Policy) : List Group :=
  policy.globals.map (fun rule => .everywhere [rule]) ++
    policy.scopes.map fun scope => .scope scope.pattern scope.params

variable {plugins : List Plugin} {policy : Policy}

/-- Characters that are no signs of patterns are no signs of brackets. -/
theorem plain_of_not_mem_patternSigns {c : Char} (h : c ∉ patternSigns) : textSigns.Plain c := by
  refine ⟨?_, ?_, ?_⟩
  all_goals
    rintro rfl
    exact h (by decide)

/-- A native pattern starts like a path or with a wildcard. -/
theorem NativePattern.rooted {pattern : String} (h : NativePattern pattern) : Rooted pattern := by
  have hrooted := rooted_normalize pattern.toList
  rwa [h.normal, String.ofList_toList] at hrooted

/-- A native pattern is in one line. -/
theorem NativePattern.oneLine {pattern : String} (h : NativePattern pattern) :
    OneLine pattern.toList := by
  refine .of_forall ?_ (fun c hc => (h.bare c hc).1) ?_
  · intro hnil
    rcases h.rooted with hhead | hhead <;> simp [hnil] at hhead
  · intro hcomment
    rcases h.rooted with hhead | hhead <;> simp [hhead] at hcomment

/-- A native pattern is passed over by every search for other signs. -/
theorem NativePattern.passes {pattern : String} (h : NativePattern pattern) {wanted : Char → Bool}
    (hwanted : ∀ c, wanted c = true → c ∈ [';', '?', '\n']) :
    Passes wanted 0 pattern.toList 0 := by
  have hsigns : [';', '?', '\n'] ⊆ '\n' :: patternSigns := by decide
  exact passes_of_bare h.bare (fun _ => plain_of_not_mem_patternSigns) fun c hc =>
    hsigns (hwanted c hc)

/-- What is known of the text of a group. -/
structure SoundGroup (plugins : List Plugin) (text : List Char) (group : Group) : Prop where
  /-- The text is in one line. -/
  oneLine : OneLine text
  /-- No group ends in the text. -/
  passes : Passes isGroupEnd 0 text 0
  /-- The text spells the group. -/
  spelled : GroupSpelled plugins text group

/-- A group ends at two of the delimiters. -/
theorem mem_of_isGroupEnd {c : Char} (h : isGroupEnd c = true) : c ∈ [';', '?', '\n'] := by
  unfold isGroupEnd at h
  rw [Bool.or_eq_true, beq_iff_eq, beq_iff_eq] at h
  rcases h with rfl | rfl <;> decide

/-- The text of a rule for every path is a group. -/
theorem soundGroup_rule {rule : Rule} (h : Rule.Sound plugins rule) :
    SoundGroup plugins rule.render (.everywhere [rule]) := by
  have hmore : [';', '?', '\n'] ⊆ ['&', ';', '?', '\n'] := by decide
  have hrules : Rule.ListSpelled plugins rule.render [rule] := by
    have hlist := Rule.listSpelled_renderList (List.forall_mem_singleton.mpr h)
      (fun _ _ _ => le_rfl)
    rwa [Rule.renderList, List.map_singleton, List.intercalate_singleton] at hlist
  refine ⟨h.oneLine, h.passes _ fun c hc => hmore (mem_of_isGroupEnd hc), ?_⟩
  refine .everywhere h.oneLine.ne_nil (.inl (find_eq_none (h.passes _ fun c hc => ?_))) hrules
  rw [beq_iff_eq.mp hc]
  decide

/-- The text of a scope is a group. -/
theorem soundGroup_scope {scope : Scope} (hpattern : NativePattern scope.pattern)
    (hsound : ∀ rule ∈ scope.params, Rule.Sound plugins rule)
    (halone : ∀ rule ∈ scope.params, rule.name = acceptAllName → scope.params.length ≤ 1) :
    SoundGroup plugins scope.render (.scope scope.pattern scope.params) := by
  have hsign : OneLine ['?'] := .singleton (by decide) (by decide)
  have hmore : [';', '?', '\n'] ⊆ ['&', ';', '?', '\n'] := by decide
  refine ⟨hpattern.oneLine.append ?_, (hpattern.passes fun _ => mem_of_isGroupEnd).append ?_, ?_⟩
  · by_cases hne : scope.params = []
    · rw [hne]
      exact hsign
    · refine hsign.append (.intercalate (by decide) (by simpa using hne) fun text htext => ?_)
      obtain ⟨rule, hmem, rfl⟩ := List.mem_map.mp htext
      exact (hsound rule hmem).oneLine
  · refine .plain (by decide) (fun _ => rfl) (.intercalate (by decide) rfl fun text htext => ?_)
    obtain ⟨rule, hmem, rfl⟩ := List.mem_map.mp htext
    exact (hsound rule hmem).passes _ fun c hc => hmore (mem_of_isGroupEnd hc)
  · have hfind : find '?' scope.render =
        .ok (some (scope.pattern.toList, Rule.renderList scope.params)) := by
      refine find_append (by decide) (hpattern.passes fun c hc => ?_) _
      rw [beq_iff_eq.mp hc]
      decide
    have hrooted : isPattern scope.render scope.pattern.toList = true := by
      have hhead : scope.render.head? = scope.pattern.toList.head? :=
        List.head?_append_of_ne_nil _ hpattern.oneLine.ne_nil
      unfold isPattern
      rw [hhead]
      rcases hpattern.rooted with hslash | hstar
      · simp [hslash]
      · simp [hstar]
    have hspelled := GroupSpelled.scope hfind hrooted (Rule.listSpelled_renderList hsound halone)
    rwa [hpattern.normal, String.ofList_toList] at hspelled

/-- The texts of the groups of a native policy are groups. -/
theorem Native.soundGroups (h : policy.Native)
    (hplugins : ∀ plugin ∈ plugins, plugin.LeavesEscapes) :
    List.Forall₂ (SoundGroup plugins) policy.renderGroups policy.groups := by
  have hglobals := h.globals.sound hplugins
  refine List.rel_append ?_ ?_
  · rw [List.forall₂_map_left_iff, List.forall₂_map_right_iff, List.forall₂_same]
    exact fun rule hmem => soundGroup_rule (hglobals rule hmem)
  · rw [List.forall₂_map_left_iff, List.forall₂_map_right_iff, List.forall₂_same]
    intro scope hmem
    have hparams := h.params scope hmem
    exact soundGroup_scope (h.patterns scope hmem) (hparams.sound hplugins) hparams.alone

/-! ## Texts -/

/-- Texts of groups spell them when they are joined. -/
theorem textSpelled_intercalate {texts : List (List Char)} {declared : List Group}
    (hne : texts ≠ []) (h : List.Forall₂ (SoundGroup plugins) texts declared) :
    TextSpelled plugins (String.ofList ([';'].intercalate texts)) declared := by
  obtain ⟨hsound, hspelled⟩ : (∀ text ∈ texts, OneLine text ∧ Passes isGroupEnd 0 text 0) ∧
      List.Forall₂ (GroupSpelled plugins) texts declared :=
    (List.forall₂_and_left ..).mp
      (h.imp fun _ _ hgroup => ⟨⟨hgroup.oneLine, hgroup.passes⟩, hgroup.spelled⟩)
  have hvisible : withoutComments ([';'].intercalate texts) = [';'].intercalate texts :=
    withoutComments_of_oneLine (.intercalate (by decide) hne fun text hmem => (hsound text hmem).1)
  have htrim : texts.map trim = texts := by
    conv_rhs => rw [← List.map_id texts]
    exact List.map_congr_left fun text hmem => (hsound text hmem).1.trimmed.trim_eq
  refine ⟨texts, ?_, ?_⟩
  · rw [String.toList_ofList, hvisible]
    exact split_intercalate rfl (by decide) hne fun text hmem => (hsound text hmem).2
  · rwa [htrim]

/-- The groups of a policy declare it. -/
theorem Distinct.foldl_groups (h : policy.Distinct) :
    policy.groups.foldl Policy.extend empty = policy := by
  unfold groups
  rw [List.foldl_append, List.foldl_map, List.foldl_map]
  exact h.empty_merge

/-- The text of a native policy is read as the policy, with the built-in plugins and with any others
that leave texts alone that start with a backslash. -/
theorem parse_render (h : policy.Native) :
    Policy.parse Plugin.builtin policy.render = .ok policy ∧
      ∀ plugins : List Plugin, (∀ plugin ∈ plugins, plugin.LeavesEscapes) →
        Policy.parse plugins policy.render = .ok policy := by
  suffices hparse : ∀ plugins : List Plugin, (∀ plugin ∈ plugins, plugin.LeavesEscapes) →
      Policy.parse plugins policy.render = .ok policy from
    ⟨hparse _ Plugin.leavesEscapes_of_mem_builtin, hparse⟩
  intro plugins hplugins
  by_cases hne : policy.renderGroups = []
  · -- Nothing is declared, and no text is one blank group.
    obtain ⟨hglobals, hscopes⟩ := List.append_eq_nil_iff.mp hne
    have hempty : policy = empty :=
      congr (congrArg Policy.mk (List.map_eq_nil_iff.mp hglobals)) (List.map_eq_nil_iff.mp hscopes)
    rw [hempty]
    exact parse_eq_ok_iff.mpr ⟨[.everywhere []], ⟨[[]], rfl, .cons .blank .nil⟩, rfl⟩
  · exact parse_eq_ok_iff.mpr ⟨policy.groups,
      textSpelled_intercalate hne (h.soundGroups hplugins), h.distinct.foldl_groups.symm⟩

/-- A policy whose names, patterns and values have signs wherever they may. -/
def signsPolicy : Policy where
  globals := [⟨"n,", .range (-5) (-3), false⟩,
    ⟨"é", .oneOf ["a,b]", "[\\", "#", "1-5", "x\t;&?=!y"], true⟩]
  scopes := [
    ⟨"/a&b=#/*", [⟨"id", .range (-9223372036854775808) 9223372036854775807, true⟩,
      ⟨"cb", .callback, false⟩, ⟨"flag", .keyOnly, true⟩]⟩,
    ⟨"*", [.acceptAll]⟩, ⟨"/none", []⟩]

/-- The policy is read back from its text. -/
theorem parse_render_signsPolicy :
    signsPolicy.Native ∧
      signsPolicy.render = "n,=[-5--3];é!=[\\a\\,b\\],\\[\\\\,\\#,\\1-5,\\x\t;&?=!y];" ++
        "/a&b=#/*?id!=[-9223372036854775808-9223372036854775807]&cb=[callback]&flag!=[];" ++
        "*?*;/none?" ∧
      Policy.parse Plugin.builtin signsPolicy.render = .ok signsPolicy := by
  have hnative : signsPolicy.Native := by
    refine ⟨⟨by decide, by decide, by decide⟩, .inr (by decide), ?_, ?_⟩
    · intro scope hscope
      simp only [signsPolicy, List.mem_cons, List.not_mem_nil, or_false] at hscope
      rcases hscope with rfl | rfl | rfl
      · exact .inr (by decide)
      · exact .inl rfl
      · exact .inr (by decide)
    · intro scope hscope
      simp only [signsPolicy, List.mem_cons, List.not_mem_nil, or_false] at hscope
      rcases hscope with rfl | rfl | rfl <;> exact ⟨by decide, by decide⟩
  exact ⟨hnative, by decide +kernel, (parse_render hnative).1⟩

end Policy

end QueryGate
