import QueryGate.Proofs.Dependence
import QueryGate.Proofs.ParsedPolicy
import QueryGate.Proofs.Refusal

/-!
# Rules loaded at once and rules added one by one

The rules of a text may come into force at once, or a gate may be cleared and the rules added one
after the other, each of which puts other rules into force. Nothing is refused on the way unless
the whole is refused: what has been added so far is a part of the whole, and a part passes every
check that the whole passes. At the end the same rules are declared.
-/

namespace QueryGate

open QueryGate.Text

/-! ## Parts of a policy -/

namespace Policy

/-- Some of the rules for every path and some of the scopes, in the order of the whole policy. -/
structure PartOf (part whole : Policy) : Prop where
  /-- The rules for every path are among those of the whole. -/
  globals : part.globals.Sublist whole.globals
  /-- The scopes are among those of the whole. -/
  scopes : part.scopes.Sublist whole.scopes

variable {part whole : Policy}

/-- A part of a policy without repetitions repeats nothing. -/
theorem PartOf.distinct (h : part.PartOf whole) (hwhole : whole.Distinct) : part.Distinct where
  patterns := (h.scopes.map Scope.pattern).nodup hwhole.patterns
  globals := (h.globals.map Rule.name).nodup hwhole.globals
  params scope hscope := hwhole.params scope (h.scopes.subset hscope)

/-- A policy that can be declared piece by piece: it repeats nothing, and its patterns are not blank
and are written as a gate keeps them. -/
structure Addable (policy : Policy) : Prop where
  /-- No pattern is declared twice, and no name twice in one place. -/
  distinct : policy.Distinct
  /-- No pattern is blank. -/
  visible : ∀ scope ∈ policy.scopes, (trim scope.pattern.toList).isEmpty = false
  /-- Normalising changes no pattern. -/
  normal : ∀ scope ∈ policy.scopes,
    Pattern.normalize scope.pattern.toList = scope.pattern.toList

/-- A part of a policy can be declared piece by piece if the policy can. -/
theorem PartOf.addable (h : part.PartOf whole) (hwhole : whole.Addable) : part.Addable where
  distinct := h.distinct hwhole.distinct
  visible scope hscope := hwhole.visible scope (h.scopes.subset hscope)
  normal scope hscope := hwhole.normal scope (h.scopes.subset hscope)

/-- A policy like those that are read can be declared piece by piece if normalising changes none of
its patterns. -/
theorem WellRead.addable {policy : Policy} (h : policy.WellRead)
    (hnormal : ∀ scope ∈ policy.scopes,
      Pattern.normalize scope.pattern.toList = scope.pattern.toList) : policy.Addable := by
  refine ⟨h.distinct, fun scope hscope => ?_, hnormal⟩
  obtain ⟨c, hc, hvisible⟩ := (h.rooted scope hscope).exists_not_isBlank
  rw [List.isEmpty_eq_false_iff, Ne, trim_eq_nil_iff]
  intro hblank
  rw [hblank c hc] at hvisible
  cases hvisible

/-- A part of a policy passes its checks if the policy does. -/
theorem PartOf.check (h : part.PartOf whole) (hwhole : whole.check = .ok ()) :
    part.check = .ok () := by
  obtain ⟨halone, hglobals, hscopes⟩ := check_eq_ok_iff.mp hwhole
  refine check_eq_ok_iff.mpr ⟨Rule.checkAlone_eq_ok_iff.mpr ?_, ?_, ?_⟩
  · intro rule hrule hname
    have hfew := Rule.checkAlone_eq_ok_iff.mp halone rule (h.globals.subset hrule) hname
    exact h.globals.length_le.trans hfew
  · exact fun rule hrule => hglobals rule (h.globals.subset hrule)
  · exact fun scope hscope => hscopes scope (h.scopes.subset hscope)

end Policy

namespace Gate

variable {gate later other : Gate} {policy : Policy}

/-! ## Changes that add rules -/

/-- A change that adds rules. If it adds them for a pattern, the pattern is not blank. -/
inductive Change.Adds : Change → Prop where
  /-- A rule for every path. -/
  | rule (rule : Rule) : Adds (.addRule rule)
  /-- Rules for a pattern. -/
  | scope {pattern : String} (params : List Rule)
      (hpattern : (trim pattern.toList).isEmpty = false) : Adds (.addScope pattern params)

/-- What is declared after a change that adds rules to what was declared. -/
def Change.declareOn (declared : Policy) : Change → Policy
  | addRule rule => declared.declare rule
  | addScope pattern params =>
    declared.declareScope (String.ofList (Pattern.normalize pattern.toList)) params
  | _ => declared

/-- A change that adds rules asks for the declared rules with the added ones. -/
theorem Change.Adds.asks {change : Change} (h : change.Adds) (gate : Gate) :
    gate.Asks change (change.declareOn gate.declared) := by
  cases h with
  | rule rule => exact .rule rule
  | scope params hpattern => exact .scope params hpattern

/-- The changes that add what a policy declares, in its order. -/
def additions (policy : Policy) : List Change :=
  policy.globals.map .addRule ++
    policy.scopes.map fun scope => .addScope scope.pattern scope.params

/-- What has been added before the rest of a policy is a part of it. -/
theorem exists_part_of_additions {earlier : List Change} (h : earlier <+: additions policy) :
    ∃ part : Policy, part.PartOf policy ∧ earlier = additions part := by
  have htake := List.prefix_iff_eq_take.mp h
  refine ⟨⟨policy.globals.take earlier.length,
    policy.scopes.take (earlier.length - policy.globals.length)⟩,
    ⟨List.take_sublist .., List.take_sublist ..⟩, ?_⟩
  unfold additions at htake
  rw [List.take_append, ← List.map_take, ← List.map_take, List.length_map] at htake
  exact htake

/-- Every one of these changes adds rules. -/
theorem adds_of_mem_additions (h : policy.Addable) :
    ∀ change ∈ additions policy, change.Adds := by
  intro change hchange
  rcases List.mem_append.mp hchange with hrule | hscope
  · obtain ⟨rule, _, rfl⟩ := List.mem_map.mp hrule
    exact .rule rule
  · obtain ⟨scope, hmem, rfl⟩ := List.mem_map.mp hscope
    exact .scope scope.params (h.visible scope hmem)

/-- Declaring what a policy adds gives the policy. -/
theorem foldl_declareOn_additions (h : policy.Addable) :
    (additions policy).foldl Change.declareOn .empty = policy := by
  have hscope : ∀ (declared : Policy), ∀ scope ∈ policy.scopes,
      Change.declareOn declared (.addScope scope.pattern scope.params) =
        declared.declareScope scope.pattern scope.params := by
    intro declared scope hmem
    change declared.declareScope (String.ofList (Pattern.normalize scope.pattern.toList)) _ = _
    rw [h.normal scope hmem, String.ofList_toList]
  have hmerge := h.distinct.empty_merge
  unfold Policy.merge at hmerge
  unfold additions
  rw [List.foldl_append, List.foldl_map, List.foldl_map]
  exact (List.foldl_ext _ _ _ hscope).trans hmerge

/-- What is declared after some of these changes passes its checks at every point exactly if the
policy does. -/
theorem forall_prefix_check_iff (h : policy.Addable) :
    (∀ earlier, earlier <+: additions policy →
      (earlier.foldl Change.declareOn .empty).check = .ok ()) ↔ policy.check = .ok () := by
  constructor
  · intro hall
    have hwhole := hall (additions policy) (List.prefix_refl _)
    rwa [foldl_declareOn_additions h] at hwhole
  · intro hcheck earlier hearlier
    obtain ⟨part, hpart, rfl⟩ := exists_part_of_additions hearlier
    rw [foldl_declareOn_additions (hpart.addable h)]
    exact hpart.check hcheck

/-! ## Gates that come to declare a policy -/

/-- A later gate that is open, has a policy declared, and judges by it with the limits and the
callback of the gate. -/
structure ComesTo (gate : Gate) (policy : Policy) (later : Gate) : Prop where
  /-- The later gate is open. -/
  isOpen_eq : later.isOpen = true
  /-- The policy is declared. -/
  declared_eq : later.declared = policy
  /-- The callback stays. -/
  callback_eq : later.callback = gate.callback
  /-- The limits stay. -/
  limits_eq : later.limits = gate.limits

/-- A gate comes to what a gate that it has come to comes to. -/
theorem ComesTo.trans {middle : Policy} (h : gate.ComesTo middle later)
    (hnext : later.ComesTo policy other) : gate.ComesTo policy other :=
  ⟨hnext.isOpen_eq, hnext.declared_eq, hnext.callback_eq.trans h.callback_eq,
    hnext.limits_eq.trans h.limits_eq⟩

/-- Later gates that have come to the same policy agree on every path. -/
theorem ComesTo.agreesOn (h : gate.ComesTo policy later) (hother : gate.ComesTo policy other)
    (path : String) : later.AgreesOn other path := by
  refine ⟨?_, ?_, ?_, ?_, ?_⟩
  · rw [h.isOpen_eq, hother.isOpen_eq]
  · rw [h.limits_eq, hother.limits_eq]
  · rw [h.limits_eq, hother.limits_eq]
  · rw [h.callback_eq, hother.callback_eq]
  · rw [h.declared_eq, hother.declared_eq]

/-- An open gate installs a policy exactly if the policy passes its checks. -/
theorem fst_install_eq_ok_iff (hopen : gate.isOpen = true) :
    (gate.install policy).1 = .ok () ↔ policy.check = .ok () := by
  cases hcheck : policy.check with
  | error error => rw [(install_eq_error_iff hopen).mpr hcheck]
  | ok =>
    refine iff_of_true ?_ rfl
    cases hinstall : (gate.install policy).1 with
    | ok => rfl
    | error error =>
      rw [(install_eq_error_iff hopen).mp hinstall] at hcheck
      cases hcheck

/-- A gate that installs a policy comes to it. -/
theorem comesTo_install (h : (gate.install policy).1 = .ok ()) :
    gate.ComesTo policy (gate.install policy).2 := by
  have hinstall : gate.install policy = (.ok (), (gate.install policy).2) := Prod.ext h rfl
  obtain ⟨hopen, rules, _, hlater⟩ := install_eq_ok_iff.mp hinstall
  rw [hlater]
  exact ⟨hopen, rfl, rfl, rfl⟩

/-! ## Rules added one by one -/

/-- Every answer in a session is that a change succeeded. -/
def Succeeds (gate : Gate) (operations : List Operation) : Prop :=
  ∀ event ∈ gate.events operations, event.answer = .done (.ok ())

/-- A session of changes succeeds if the first of them does and the others do afterwards. -/
theorem succeeds_cons_iff {change : Change} {changes : List Change} :
    gate.Succeeds ((change :: changes).map .change) ↔
      (gate.apply change).1 = .ok () ∧ (gate.apply change).2.Succeeds (changes.map .change) := by
  unfold Succeeds
  rw [List.map_cons, events, List.forall_mem_cons]
  exact and_congr_left fun _ => ⟨Answer.done.inj, congrArg Answer.done⟩

/-- An open gate adds rules exactly if the declared rules with the added ones pass the checks. -/
theorem Change.Adds.fst_apply_eq_ok_iff {change : Change} (h : change.Adds)
    (hopen : gate.isOpen = true) :
    (gate.apply change).1 = .ok () ↔ (change.declareOn gate.declared).check = .ok () := by
  rw [apply_of_asks hopen (h.asks gate)]
  exact fst_install_eq_ok_iff hopen

/-- An open gate that adds rules comes to the declared rules with the added ones. -/
theorem Change.Adds.comesTo {change : Change} (h : change.Adds) (hopen : gate.isOpen = true)
    (hok : (gate.apply change).1 = .ok ()) :
    gate.ComesTo (change.declareOn gate.declared) (gate.apply change).2 := by
  rw [apply_of_asks hopen (h.asks gate)] at hok ⊢
  exact comesTo_install hok

/-- A gate that adds rules one by one comes to the declared rules with all of them. -/
theorem comesTo_of_succeeds {changes : List Change} (hopen : gate.isOpen = true)
    (hadds : ∀ change ∈ changes, change.Adds) (h : gate.Succeeds (changes.map .change)) :
    gate.ComesTo (changes.foldl Change.declareOn gate.declared)
      (gate.after (changes.map .change)) := by
  induction changes generalizing gate with
  | nil => exact ⟨hopen, rfl, rfl, rfl⟩
  | cons change changes ih =>
    obtain ⟨hchange, hchanges⟩ := List.forall_mem_cons.mp hadds
    obtain ⟨hfirst, hrest⟩ := succeeds_cons_iff.mp h
    have hstep := hchange.comesTo hopen hfirst
    have hlater := ih hstep.isOpen_eq hchanges hrest
    rw [hstep.declared_eq] at hlater
    exact hstep.trans hlater

/-- Adding rules one by one succeeds exactly if what is declared at each point passes its checks. -/
theorem succeeds_iff_forall_check {changes : List Change} (hopen : gate.isOpen = true)
    (hcheck : gate.declared.check = .ok ()) (hadds : ∀ change ∈ changes, change.Adds) :
    gate.Succeeds (changes.map .change) ↔
      ∀ earlier, earlier <+: changes →
        (earlier.foldl Change.declareOn gate.declared).check = .ok () := by
  induction changes generalizing gate with
  | nil =>
    refine ⟨fun _ earlier hearlier => ?_, fun _ _ h => nomatch h⟩
    rw [List.prefix_nil.mp hearlier]
    exact hcheck
  | cons change changes ih =>
    obtain ⟨hchange, hchanges⟩ := List.forall_mem_cons.mp hadds
    have hok := hchange.fst_apply_eq_ok_iff hopen
    have hrest : (gate.apply change).1 = .ok () →
        ((gate.apply change).2.Succeeds (changes.map .change) ↔
          ∀ earlier, earlier <+: changes →
            (earlier.foldl Change.declareOn (change.declareOn gate.declared)).check =
              .ok ()) := by
      intro hfirst
      have hstep := hchange.comesTo hopen hfirst
      have hnext := hok.mp hfirst
      rw [← hstep.declared_eq] at hnext ⊢
      exact ih hstep.isOpen_eq hnext hchanges
    rw [succeeds_cons_iff]
    constructor
    · rintro ⟨hfirst, hsucceeds⟩ earlier hearlier
      rcases List.prefix_cons_iff.mp hearlier with rfl | ⟨inner, rfl, hinner⟩
      · exact hcheck
      · exact (hrest hfirst).mp hsucceeds inner hinner
    · intro hall
      have hfirst := hok.mpr (hall [change] (List.prefix_append [change] changes))
      refine ⟨hfirst, (hrest hfirst).mpr fun earlier hearlier => ?_⟩
      exact hall (change :: earlier) ((List.prefix_cons_inj change).mpr hearlier)

/-- A gate without rules comes to a policy by adding what the policy declares, and this succeeds
exactly if the policy passes its checks. -/
theorem succeeds_additions_iff (hopen : gate.isOpen = true) (hempty : gate.declared = .empty)
    (h : policy.Addable) :
    (gate.Succeeds ((additions policy).map .change) ↔ policy.check = .ok ()) ∧
      (gate.Succeeds ((additions policy).map .change) →
        gate.ComesTo policy (gate.after ((additions policy).map .change))) := by
  have hadds := adds_of_mem_additions h
  have hcheck : gate.declared.check = .ok () := by rw [hempty]; rfl
  refine ⟨?_, fun hsucceeds => ?_⟩
  · rw [succeeds_iff_forall_check hopen hcheck hadds, hempty]
    exact forall_prefix_check_iff h
  · have hcomes := comesTo_of_succeeds hopen hadds hsucceeds
    rwa [hempty, foldl_declareOn_additions h] at hcomes

/-- An open gate can be cleared. -/
theorem comesTo_clear (hopen : gate.isOpen = true) :
    (gate.apply .clear).1 = .ok () ∧ gate.ComesTo .empty (gate.apply .clear).2 := by
  have hclear : (gate.install .empty).1 = .ok () := (fst_install_eq_ok_iff hopen).mpr rfl
  exact ⟨hclear, comesTo_install hclear⟩

/-- An open gate comes to a policy if it is cleared and what the policy declares is added, and this
succeeds exactly if the policy passes its checks. -/
theorem succeeds_clear_additions_iff (hopen : gate.isOpen = true) (h : policy.Addable) :
    (gate.Succeeds ((.clear :: additions policy).map .change) ↔ policy.check = .ok ()) ∧
      (gate.Succeeds ((.clear :: additions policy).map .change) →
        gate.ComesTo policy (gate.after ((.clear :: additions policy).map .change))) := by
  obtain ⟨hclear, hcleared⟩ := comesTo_clear hopen
  obtain ⟨hiff, hcomes⟩ := succeeds_additions_iff hcleared.isOpen_eq hcleared.declared_eq h
  rw [succeeds_cons_iff, and_iff_right hclear]
  exact ⟨hiff, fun hsucceeds => hcleared.trans (hcomes hsucceeds)⟩

/-! ## Rules loaded at once -/

/-- An open gate comes to the policy of a text by loading the text, and this succeeds exactly if the
policy passes its checks. -/
theorem fst_apply_loadText_eq_ok_iff {text : String} (hopen : gate.isOpen = true)
    (hsize : text.utf8ByteSize ≤ gate.limits.maxRulesSize)
    (hparse : Policy.parse gate.plugins text = .ok policy) :
    ((gate.apply (.loadText text)).1 = .ok () ↔ policy.check = .ok ()) ∧
      ((gate.apply (.loadText text)).1 = .ok () →
        gate.ComesTo policy (gate.apply (.loadText text)).2) := by
  have hasks : gate.Asks (.loadText text) policy := .text ⟨rfl, hsize⟩ hparse
  rw [apply_of_asks hopen hasks]
  exact ⟨fst_install_eq_ok_iff hopen, comesTo_install⟩

/-- At an open gate after any session, let a text be short enough and read as a policy, and let
normalising change none of its patterns. Loading the text succeeds exactly if it succeeds to clear
the gate and then to add the rules for every path and the rules for each pattern, one by one and in
order. When they succeed, the policy is declared either way, and every question has the same answer,
whatever other questions have been asked in between. -/
theorem loading_agrees_with_adding (limits : Limits) (plugins : List Plugin)
    (operations : List Operation) {text : String} {policy : Policy}
    (hopen : ((new limits plugins).after operations).isOpen = true)
    (hsize : text.utf8ByteSize ≤ limits.maxRulesSize)
    (hparse : Policy.parse ((new limits plugins).after operations).plugins text = .ok policy)
    (hnormal : ∀ scope ∈ policy.scopes,
      Pattern.normalize scope.pattern.toList = scope.pattern.toList) :
    let gate := (new limits plugins).after operations
    let adding : List Operation := (.clear :: additions policy).map .change
    let loaded := (gate.apply (.loadText text)).2
    let added := gate.after adding
    ((gate.apply (.loadText text)).1 = .ok () ↔
      ∀ event ∈ gate.events adding, event.answer = .done (.ok ())) ∧
    ((gate.apply (.loadText text)).1 = .ok () →
      (loaded.declared = policy ∧ added.declared = policy) ∧
      ∀ (questions otherQuestions : List Question) (question : Question),
        ((loaded.afterAsking questions).ask question).1 =
          ((added.afterAsking otherQuestions).ask question).1) := by
  intro gate adding loaded added
  have hsound : gate.Sound := (sound_new limits plugins).after operations
  have hlimits : gate.limits = limits := (new limits plugins).limits_after operations
  rw [← hlimits] at hsize
  obtain ⟨declared, hspelled, hpolicy⟩ := Policy.parse_eq_ok_iff.mp hparse
  have hwell : policy.WellRead := hpolicy ▸ hspelled.wellRead
  obtain ⟨hloadOk, hload⟩ := fst_apply_loadText_eq_ok_iff hopen hsize hparse
  obtain ⟨haddOk, hadd⟩ := succeeds_clear_additions_iff hopen (hwell.addable hnormal)
  have hiff := hloadOk.trans haddOk.symm
  refine ⟨hiff, fun hok => ?_⟩
  have hloaded : gate.ComesTo policy loaded := hload hok
  have hadded : gate.ComesTo policy added := hadd (hiff.mp hok)
  refine ⟨⟨hloaded.declared_eq, hadded.declared_eq⟩, ?_⟩
  intro questions otherQuestions question
  exact (hloaded.agreesOn hadded question.path).fst_ask_afterAsking
    (hsound.perform (.change (.loadText text))) (hsound.after adding) questions otherQuestions

/-- A session that declares a rule. -/
def declaringOld : List Operation :=
  [.change (.addRule ⟨"old", .any, false⟩)]

/-- Text with a rule for every path and one for the pages of a shop. -/
def browsingText : String :=
  "lang;/shop/*?page=[1-9]"

/-- What the text declares. -/
def browsingPolicy : Policy where
  globals := [⟨"lang", .any, false⟩]
  scopes := [⟨"/shop/*", [⟨"page", .range 1 9, false⟩]⟩]

/-- A text is loaded at a gate that has other rules, and after a question a query is filtered as it
is where the rules have been added one by one. -/
theorem loading_agrees_with_adding_browsingText :
    let gate := (new {} []).after declaringOld
    let loading := gate.apply (.loadText browsingText)
    let added := gate.after ((.clear :: additions browsingPolicy).map .change)
    loading.1 = .ok () ∧ loading.2.declared = added.declared ∧
      ((loading.2.afterAsking [.acceptsUrl "/shop/tea?page=4"]).ask
        (.filterQuery "/shop/tea" "old=1&page=3&lang=en&page=0")).1 = .text "page=3&lang=en" := by
  have htext : browsingText.toList = ['l', 'a', 'n', 'g', ';', '/', 's', 'h', 'o', 'p', '/', '*',
      '?', 'p', 'a', 'g', 'e', '=', '[', '1', '-', '9', ']'] := by decide
  have hsplit : (Brackets.split Policy.isGroupEnd (Policy.withoutComments
      browsingText.toList)).mapError (Error.unbalanced 0) =
      .ok [['l', 'a', 'n', 'g'], ['/', 's', 'h', 'o', 'p', '/', '*', '?', 'p', 'a', 'g', 'e', '=',
        '[', '1', '-', '9', ']']] := by
    rw [htext]
    rfl
  have hglobal : Policy.addGroup [] .empty 1 ['l', 'a', 'n', 'g'] =
      .ok ⟨[⟨"lang", .any, false⟩], []⟩ := by rfl
  have hscope : Policy.addGroup [] ⟨[⟨"lang", .any, false⟩], []⟩ 2 ['/', 's', 'h', 'o', 'p', '/',
      '*', '?', 'p', 'a', 'g', 'e', '=', '[', '1', '-', '9', ']'] = .ok browsingPolicy := by rfl
  have hplugins : ((new {} []).after declaringOld).plugins = [] := by rfl
  have hparse : Policy.parse ((new {} []).after declaringOld).plugins browsingText =
      .ok browsingPolicy := by
    rw [hplugins]
    exact Except.bind_eq_ok_iff.mpr ⟨_, hsplit, Except.bind_eq_ok_iff.mpr
      ⟨_, hglobal, Except.bind_eq_ok_iff.mpr ⟨_, hscope, rfl⟩⟩⟩
  have hopen : ((new {} []).after declaringOld).isOpen = true := by rfl
  have hsize : browsingText.utf8ByteSize ≤ ({} : Limits).maxRulesSize := by decide
  have hnormal : ∀ scope ∈ browsingPolicy.scopes,
      Pattern.normalize scope.pattern.toList = scope.pattern.toList := by decide
  have hcheck : browsingPolicy.check = .ok () := by rfl
  obtain ⟨_, hsame⟩ := loading_agrees_with_adding {} [] declaringOld hopen hsize hparse hnormal
  have hloaded := (fst_apply_loadText_eq_ok_iff hopen hsize hparse).1.mpr hcheck
  obtain ⟨⟨hdeclared, hotherDeclared⟩, hanswers⟩ := hsame hloaded
  have hasked : ∀ gate : Gate, ((gate.afterAsking []).ask
      (.filterQuery "/shop/tea" "old=1&page=3&lang=en&page=0")).1 =
      .text (gate.filterQuery "/shop/tea" "old=1&page=3&lang=en&page=0").1 := fun _ => rfl
  have hfiltered : ((((new {} []).after declaringOld).after
      ((.clear :: additions browsingPolicy).map .change)).filterQuery "/shop/tea"
        "old=1&page=3&lang=en&page=0").1 = "page=3&lang=en" := by decide +kernel
  have hadded := (hasked _).trans (congrArg Answer.text hfiltered)
  exact ⟨hloaded, hdeclared.trans hotherDeclared.symm, (hanswers _ [] _).trans hadded⟩

end Gate

end QueryGate
