import QueryGate.Gate.Basic
import QueryGate.Plugin.Builtin
import QueryGate.Proofs.KeptExpressions
import QueryGate.Proofs.RuleText
import Mathlib.Data.List.Pairwise

/-!
# Which plugin decides

A constraint goes to the first plugin that has something to say. The built-in plugins never compete
for one: each recognises texts by what they start with, has something to say about exactly those,
and nothing that one of them looks for starts with what another one looks for. So the order in which
they are asked has no influence on what rule text declares, and the plugin that recognises a
constraint is the one that decides it.
-/

namespace QueryGate

open QueryGate.Text

namespace Plugin

variable {plugin other : Plugin}

/-! ## Recognition -/

/-- The plugin recognises exactly the texts about which it has something to say, whatever the
parameter is called. -/
def Candid (plugin : Plugin) : Prop :=
  ∀ param constraint,
    plugin.recognises constraint = !(plugin.parse param constraint).isNotApplicable

/-- A plugin that reads what follows a keyword has something to say when there is the keyword. -/
theorem isSome_afterKeyword? (keyword constraint : String) :
    (afterKeyword? keyword constraint).isSome = hasKeyword keyword constraint := by
  unfold afterKeyword? hasKeyword
  rw [Option.isSome_map, List.isSome_isPrefixOf?_eq_isPrefixOf]

/-- A plugin that recognises a keyword recognises what it has something to say about if it says
something exactly where the keyword is. -/
theorem candid_of_keyword {keyword : String} (hrecognises : plugin.recognises = hasKeyword keyword)
    (hparse : ∀ param constraint, (plugin.parse param constraint).isNotApplicable =
      (afterKeyword? keyword constraint).isNone) : plugin.Candid := by
  intro param constraint
  rw [hrecognises, hparse, ← isSome_afterKeyword?, Option.not_isNone]

/-- The range plugin recognises what it has something to say about. -/
theorem candid_range : range.Candid := by
  refine candid_of_keyword rfl fun _ constraint => ?_
  change (parseRange constraint).isNotApplicable = _
  unfold parseRange
  cases afterKeyword? "range:" constraint with
  | none => rfl
  | some body =>
    dsimp only
    split
    · rfl
    · split <;> rfl

/-- The length plugin recognises what it has something to say about. -/
theorem candid_length : length.Candid := by
  refine candid_of_keyword rfl fun _ constraint => ?_
  change (parseLength constraint).isNotApplicable = _
  unfold parseLength
  cases afterKeyword? "len:" constraint with
  | none => rfl
  | some body =>
    dsimp only
    split
    · rfl
    · split <;> rfl

/-- A plugin for expressions recognises what it has something to say about. -/
theorem ExpressionSyntax.candid_toPlugin (form : ExpressionSyntax) : form.toPlugin.Candid := by
  refine candid_of_keyword rfl fun _ constraint => ?_
  change (form.parse constraint).isNotApplicable = _
  unfold ExpressionSyntax.parse
  cases afterKeyword? form.keyword constraint with
  | none => rfl
  | some expression =>
    cases expression with
    | nil => rfl
    | cons c rest =>
      dsimp only
      unfold outcome
      split <;> rfl

/-- The comparison plugin recognises what it has something to say about. -/
theorem candid_compare : compare.Candid := by
  intro param constraint
  change (Comparison.ofText? constraint.toList).isSome =
    !(parseComparison constraint).isNotApplicable
  unfold parseComparison
  cases Comparison.ofText? constraint.toList with
  | none => rfl
  | some read =>
    dsimp only
    split <;> rfl

/-! ## Openings -/

/-- The plugin recognises only texts that start with one of the openings. -/
def Opens (plugin : Plugin) (openings : List String) : Prop :=
  ∀ constraint, plugin.recognises constraint = true →
    ∃ opening ∈ openings, opening.toList <+: constraint.toList

/-- No opening of either list starts with one of the other. -/
def Apart (openings others : List String) : Prop :=
  ∀ opening ∈ openings, ∀ other ∈ others,
    ¬opening.toList <+: other.toList ∧ ¬other.toList <+: opening.toList

instance (openings others : List String) : Decidable (Apart openings others) :=
  inferInstanceAs (Decidable (∀ opening ∈ openings, ∀ other ∈ others, _ ∧ _))

/-- A keyword is an opening. -/
theorem opens_of_keyword {keyword : String} (h : plugin.recognises = hasKeyword keyword) :
    plugin.Opens [keyword] := by
  intro constraint hrecognised
  rw [h] at hrecognised
  exact ⟨keyword, List.mem_singleton_self _, List.isPrefixOf_iff_prefix.mp hrecognised⟩

/-- A comparison starts with one of its signs. -/
theorem opens_compare : compare.Opens [">", "<", "==", "!="] := by
  intro constraint hrecognised
  change (Comparison.ofText? constraint.toList).isSome = true at hrecognised
  revert hrecognised
  fun_cases Comparison.ofText? constraint.toList <;> simp_all

/-- No two plugins have something to say about a text, for any parameters. -/
def Excludes (plugin other : Plugin) : Prop :=
  ∀ constraint param param', (plugin.parse param constraint).isNotApplicable = true ∨
    (other.parse param' constraint).isNotApplicable = true

instance : Std.Symm Excludes :=
  ⟨fun _ _ h constraint param param' => (h constraint param' param).symm⟩

/-- Plugins whose openings are apart exclude each other. -/
theorem excludes_of_apart {openings others : List String} (hplugin : plugin.Candid)
    (hother : other.Candid) (hopens : plugin.Opens openings) (hopens' : other.Opens others)
    (hapart : Apart openings others) : plugin.Excludes other := by
  intro constraint param param'
  by_contra hboth
  rw [not_or, Bool.not_eq_true, Bool.not_eq_true] at hboth
  have hrecognised : plugin.recognises constraint = true := by rw [hplugin param, hboth.1]; rfl
  have hrecognised' : other.recognises constraint = true := by rw [hother param', hboth.2]; rfl
  obtain ⟨opening, hmem, hprefix⟩ := hopens constraint hrecognised
  obtain ⟨opening', hmem', hprefix'⟩ := hopens' constraint hrecognised'
  have hnone := hapart opening hmem opening' hmem'
  rcases List.prefix_or_prefix_of_prefix hprefix hprefix' with hstart | hstart
  · exact hnone.1 hstart
  · exact hnone.2 hstart

/-- The built-in plugins, each with what the texts that it recognises start with. -/
def builtinOpenings : List (Plugin × List String) :=
  [(range, ["range:"]), (length, ["len:"]), (compare, [">", "<", "==", "!="]),
    (pattern, ["pattern:"]), (regex, ["regex:"])]

/-- Every built-in plugin recognises what it has something to say about, by its openings. -/
theorem candid_and_opens_of_mem {entry : Plugin × List String} (h : entry ∈ builtinOpenings) :
    entry.1.Candid ∧ entry.1.Opens entry.2 := by
  simp only [builtinOpenings, List.mem_cons, List.not_mem_nil, or_false] at h
  rcases h with rfl | rfl | rfl | rfl | rfl
  · exact ⟨candid_range, opens_of_keyword rfl⟩
  · exact ⟨candid_length, opens_of_keyword rfl⟩
  · exact ⟨candid_compare, opens_compare⟩
  · exact ⟨globSyntax.candid_toPlugin, opens_of_keyword rfl⟩
  · exact ⟨regexSyntax.candid_toPlugin, opens_of_keyword rfl⟩

/-- Every built-in plugin recognises what it has something to say about. -/
theorem candid_of_mem_builtin (h : plugin ∈ builtin) : plugin.Candid := by
  obtain ⟨entry, hentry, rfl⟩ := List.mem_map.mp (show plugin ∈ builtinOpenings.map Prod.fst from h)
  exact (candid_and_opens_of_mem hentry).1

/-- The built-in plugins exclude each other. -/
theorem pairwise_excludes_builtin : builtin.Pairwise Excludes := by
  have hapart : builtinOpenings.Pairwise fun entry other => Apart entry.2 other.2 := by decide
  refine (List.pairwise_map (f := Prod.fst) (l := builtinOpenings)).mpr ?_
  refine hapart.imp_of_mem fun hentry hother h => ?_
  obtain ⟨hcandid, hopens⟩ := candid_and_opens_of_mem hentry
  obtain ⟨hcandid', hopens'⟩ := candid_and_opens_of_mem hother
  exact excludes_of_apart hcandid hcandid' hopens hopens' h

end Plugin

/-! ## The plugin that decides -/

/-- The plugin decides what becomes of the constraint of a parameter: it makes a predicate of the
text, or it refuses the text. -/
inductive Plugin.Decides (plugin : Plugin) (name body : String) : Except Error Constraint → Prop
  /-- The plugin makes a predicate of the text. -/
  | accepts {accepts : Predicate} (h : plugin.parse name body = .accepted accepts) :
    Decides plugin name body (.ok (.plugin plugin.name body accepts))
  /-- The plugin refuses the text. -/
  | refuses {complaint : Complaint} (h : plugin.parse name body = .malformed complaint) :
    Decides plugin name body (.error (.plugin plugin.name complaint name))

/-- The first plugin that has something to say about the constraint of a parameter. -/
def Plugin.first? (plugins : List Plugin) (name body : String) : Option Plugin :=
  plugins.find? fun plugin => !(plugin.parse name body).isNotApplicable

/-- A plugin that decides has something to say. -/
theorem Plugin.Decides.isNotApplicable {plugin : Plugin} {name body : String}
    {result : Except Error Constraint} (h : plugin.Decides name body result) :
    (plugin.parse name body).isNotApplicable = false := by
  cases h with
  | accepts h => rw [h]; rfl
  | refuses h => rw [h]; rfl

namespace Constraint

variable {plugins others : List Plugin} {name : String} {body : List Char} {group : Nat}

/-- A constraint is left to the plugins: the first that has something to say decides, and without
one there are only values. -/
def LeftToPlugins (plugins : List Plugin) (group : Nat) (name : String) (body : List Char) :
    Prop :=
  (∃ plugin, Plugin.first? plugins name (String.ofList body) = some plugin ∧
    plugin.Decides name (String.ofList body) (Constraint.parse plugins group name body)) ∨
  Plugin.first? plugins name (String.ofList body) = none ∧
    Constraint.parse plugins group name body = ofValues group name body

/-- A text that is no constraint by itself is left to the plugins. -/
theorem leftToPlugins_of_foreign (plugins : List Plugin) (group : Nat) (name : String)
    (h : Foreign body) : LeftToPlugins plugins group name body := by
  unfold LeftToPlugins Plugin.first?
  rw [parse_of_foreign h]
  induction plugins with
  | nil => exact .inr ⟨rfl, rfl⟩
  | cons first rest ih =>
    rw [ofPlugins]
    cases hspeaks : first.parse name (String.ofList body) with
    | notApplicable =>
      rw [List.find?_cons_of_neg (by rw [hspeaks]; exact Bool.false_ne_true)]
      exact ih
    | accepted accepts =>
      rw [List.find?_cons_of_pos (by rw [hspeaks]; rfl)]
      exact .inl ⟨first, rfl, .accepts hspeaks⟩
    | malformed complaint =>
      rw [List.find?_cons_of_pos (by rw [hspeaks]; rfl)]
      exact .inl ⟨first, rfl, .refuses hspeaks⟩

/-- Values are not the decision of a plugin. -/
theorem ofValues_ne_of_decides {plugin : Plugin} {result : Except Error Constraint}
    (h : plugin.Decides name (String.ofList body) result) : result ≠ ofValues group name body := by
  unfold ofValues
  cases h <;> split <;> simp

/-- The order of plugins that exclude each other has no influence on what becomes of a text. -/
theorem ofPlugins_perm (hperm : plugins.Perm others)
    (hexcludes : plugins.Pairwise Plugin.Excludes) : ofPlugins plugins = ofPlugins others := by
  funext name body
  induction hperm with
  | nil => rfl
  | cons first _ ih =>
    rw [ofPlugins, ofPlugins, ih (List.pairwise_cons.mp hexcludes).2]
  | swap first second rest =>
    have hfirst := (List.pairwise_cons.mp hexcludes).1 first (List.mem_cons_self ..) body name name
    simp only [ofPlugins]
    -- One of the two leaves the text to the other.
    rcases hfirst with h | h
    · cases hspeaks : second.parse name body with
      | notApplicable => rfl
      | _ => rw [hspeaks] at h; cases h
    · cases hspeaks : first.parse name body with
      | notApplicable => rfl
      | _ => rw [hspeaks] at h; cases h
  | trans hfirst _ ih ih' =>
    exact (ih hexcludes).trans (ih' (hfirst.pairwise hexcludes fun h => Std.Symm.symm _ _ h))

end Constraint

/-! ## Rule text -/

/-- Reading rule text depends on the plugins only in what they make of constraints. -/
theorem Policy.parse_congr {plugins others : List Plugin}
    (h : Constraint.ofPlugins plugins = Constraint.ofPlugins others) :
    Policy.parse plugins = Policy.parse others := by
  have hconstraint : Constraint.parse plugins = Constraint.parse others := by
    funext group name body
    unfold Constraint.parse
    rw [h]
  have hrule : Rule.parse plugins = Rule.parse others := by
    funext group spec
    unfold Rule.parse
    rw [hconstraint]
  have hlist : Rule.parseList plugins = Rule.parseList others := by
    funext group params
    unfold Rule.parseList
    rw [hrule]
  have hgroup : Policy.addGroup plugins = Policy.addGroup others := by
    funext policy number group
    unfold Policy.addGroup
    rw [hlist]
  funext text
  unfold Policy.parse
  rw [hgroup]

namespace Gate

variable {gate : Gate}

/-- The gate with other plugins. -/
def withPlugins (gate : Gate) (plugins : List Plugin) : Gate :=
  { gate with plugins }

/-- Putting rules into force does not depend on the plugins and does not change them. -/
theorem install_withPlugins (gate : Gate) (plugins : List Plugin) (policy : Policy) :
    (gate.withPlugins plugins).install policy =
      ((gate.install policy).1, (gate.install policy).2.withPlugins plugins) := by
  unfold install withPlugins
  dsimp only
  by_cases hopen : gate.isOpen = true
  · rw [if_pos hopen, if_pos hopen]
    cases Generation.prepare policy (gate.generation + 1) <;> rfl
  · rw [if_neg hopen, if_neg hopen]

/-- Loading a text depends on the plugins only in what the text is read as. -/
theorem loadText_withPlugins (gate : Gate) {plugins : List Plugin}
    (h : Policy.parse plugins = Policy.parse gate.plugins) (text : String) :
    (gate.withPlugins plugins).loadText text =
      ((gate.loadText text).1, (gate.loadText text).2.withPlugins plugins) := by
  unfold loadText
  rw [show (gate.withPlugins plugins).plugins = plugins from rfl, h]
  simp only [install_withPlugins]
  -- Only the place of the plugins in the gate is left to compare.
  change (if gate.isOpen = true then if gate.limits.maxRulesSize < text.utf8ByteSize then _ else _
    else _) = _
  split
  · split
    · rfl
    · cases Policy.parse gate.plugins text with
      | error error => rfl
      | ok policy => rfl
  · rfl

/-- The plugin that a gate names for a text is the first that has something to say about it. -/
theorem pluginFor?_eq (hcandid : ∀ plugin ∈ gate.plugins, plugin.Candid) (name body : String) :
    gate.pluginFor? body = (Plugin.first? gate.plugins name body).map Plugin.name := by
  unfold pluginFor? Plugin.first?
  rw [← List.head?_filter, ← List.head?_filter,
    List.filter_congr fun plugin hplugin => hcandid plugin hplugin name body]

section Naming

variable {name : String} {body : List Char} {group : Nat}

/-- A gate names a plugin for a text exactly when this plugin decides it. -/
theorem pluginFor?_eq_some_iff (hcandid : ∀ plugin ∈ gate.plugins, plugin.Candid)
    (hexcludes : gate.plugins.Pairwise Plugin.Excludes) (hforeign : Constraint.Foreign body)
    {decider : String} :
    gate.pluginFor? (String.ofList body) = some decider ↔
      ∃ plugin ∈ gate.plugins, plugin.name = decider ∧ plugin.Decides name (String.ofList body)
        (Constraint.parse gate.plugins group name body) := by
  rw [pluginFor?_eq hcandid name, Option.map_eq_some_iff]
  constructor
  · rintro ⟨plugin, hfind, rfl⟩
    rcases Constraint.leftToPlugins_of_foreign gate.plugins group name hforeign with
      ⟨plugin', hfind', hdecides⟩ | ⟨hnone, -⟩
    · cases hfind.symm.trans hfind'
      exact ⟨plugin, List.mem_of_find?_eq_some hfind, rfl, hdecides⟩
    · cases hfind.symm.trans hnone
  · rintro ⟨plugin, hplugin, rfl, hdecides⟩
    rcases Constraint.leftToPlugins_of_foreign gate.plugins group name hforeign with
      ⟨plugin', hfind, hdecides'⟩ | ⟨-, hvalues⟩
    · refine ⟨plugin', hfind, congrArg Plugin.name ?_⟩
      -- Two different plugins would both have something to say.
      by_contra hne
      have hmem := List.mem_of_find?_eq_some hfind
      have hspeaks := hdecides.isNotApplicable
      have hspeaks' := hdecides'.isNotApplicable
      rcases hexcludes.forall hmem hplugin hne (String.ofList body) name name with h | h
      · rw [hspeaks'] at h
        cases h
      · rw [hspeaks] at h
        cases h
    · exact absurd hvalues (Constraint.ofValues_ne_of_decides hdecides)

/-- A gate names no plugin for a text exactly when only values can become of it. -/
theorem pluginFor?_eq_none_iff (hcandid : ∀ plugin ∈ gate.plugins, plugin.Candid)
    (hforeign : Constraint.Foreign body) :
    gate.pluginFor? (String.ofList body) = none ↔
      Constraint.parse gate.plugins group name body = Constraint.ofValues group name body := by
  rw [pluginFor?_eq hcandid name, Option.map_eq_none_iff]
  rcases Constraint.leftToPlugins_of_foreign gate.plugins group name hforeign with
    ⟨plugin, hfind, hdecides⟩ | ⟨hnone, hvalues⟩
  · exact iff_of_false (by rw [hfind]; exact nofun) (Constraint.ofValues_ne_of_decides hdecides)
  · exact iff_of_true hnone hvalues

end Naming

/-- The built-in plugins never compete. Of any text at most one of them makes something, whatever
the parameters are called, and each recognises exactly the texts of which it makes something; what
the plugins for globs and expressions make of a text is the same with whatever they keep. So rule
text is read and loaded with the same result in whatever order the plugins are asked. For a text
that is no constraint by itself, a gate with these plugins names the one that decides it, or none
where only a list of values or the error that there are none can become of it. -/
theorem builtin_plugins_never_compete :
    (Plugin.builtin.Pairwise fun plugin other => ∀ constraint param param',
      (plugin.parse param constraint).isNotApplicable = true ∨
        (other.parse param' constraint).isNotApplicable = true) ∧
      (∀ plugin ∈ Plugin.builtin, ∀ constraint param, plugin.recognises constraint = true ↔
        (plugin.parse param constraint).isNotApplicable = false) ∧
      (∀ form ∈ [Plugin.globSyntax, Plugin.regexSyntax], ∀ (capacity : Nat)
        (uses : List Plugin.ExpressionSyntax.Use) (constraint : String),
        (form.parseWith (uses.foldl form.storeAfter (Lru.empty capacity)) constraint).1 =
          form.parse constraint) ∧
      ∀ gate : Gate, gate.plugins.Perm Plugin.builtin →
        (∀ text, Policy.parse gate.plugins text = Policy.parse Plugin.builtin text ∧
          gate.loadText text =
            (((gate.withPlugins Plugin.builtin).loadText text).1,
              ((gate.withPlugins Plugin.builtin).loadText text).2.withPlugins gate.plugins)) ∧
          ∀ group name body, Constraint.Foreign body →
            (∀ decider, gate.pluginFor? (String.ofList body) = some decider ↔
              ∃ plugin ∈ gate.plugins, plugin.name = decider ∧
                plugin.Decides name (String.ofList body)
                  (Constraint.parse gate.plugins group name body)) ∧
              (gate.pluginFor? (String.ofList body) = none ↔
                Constraint.parse gate.plugins group name body =
                  Constraint.ofValues group name body) := by
  refine ⟨Plugin.pairwise_excludes_builtin, ?_, ?_, ?_⟩
  · intro plugin hplugin constraint param
    rw [Plugin.candid_of_mem_builtin hplugin param, Bool.not_eq_true']
  · exact fun form _ => form.fst_parseWith_after
  intro gate hperm
  have hcandid : ∀ plugin ∈ gate.plugins, plugin.Candid :=
    fun plugin hplugin => Plugin.candid_of_mem_builtin (hperm.mem_iff.mp hplugin)
  have hexcludes : gate.plugins.Pairwise Plugin.Excludes :=
    hperm.symm.pairwise Plugin.pairwise_excludes_builtin fun h => Std.Symm.symm _ _ h
  have hparse : Policy.parse gate.plugins = Policy.parse Plugin.builtin :=
    Policy.parse_congr (Constraint.ofPlugins_perm hperm hexcludes)
  refine ⟨fun text => ⟨congrFun hparse text, ?_⟩, fun group name body hforeign => ⟨?_, ?_⟩⟩
  · exact (gate.withPlugins Plugin.builtin).loadText_withPlugins hparse text
  · exact fun decider => pluginFor?_eq_some_iff hcandid hexcludes hforeign
  · exact pluginFor?_eq_none_iff hcandid hforeign

/-- With the built-in plugins in the reverse order, a constraint on the length is read as ever, and
the length plugin decides it. -/
theorem builtin_plugins_never_compete_reversed :
    Policy.parse Plugin.builtin.reverse "n=[len:2..3]" =
        Policy.parse Plugin.builtin "n=[len:2..3]" ∧
      ∃ plugin ∈ Plugin.builtin.reverse, plugin.name = "length" ∧
        plugin.Decides "n" "len:2..3"
          (Constraint.parse Plugin.builtin.reverse 1 "n" "len:2..3".toList) := by
  have hperm : (Gate.new {} Plugin.builtin.reverse).plugins.Perm Plugin.builtin :=
    List.reverse_perm Plugin.builtin
  have hreversed := builtin_plugins_never_compete.2.2.2 _ hperm
  refine ⟨(hreversed.1 "n=[len:2..3]").1, ?_⟩
  have hforeign : Constraint.Foreign "len:2..3".toList :=
    ⟨by decide, by decide, by decide, by decide⟩
  exact ((hreversed.2 1 "n" _ hforeign).1 "length").mp (by decide)

end Gate

end QueryGate
