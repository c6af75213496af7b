import QueryGate.Proofs.Dependence

/-!
# Changes of rules are local

Every change prepares all rules anew, with other slots, masks and orders. Still a scope that is
added or extended matters only to the paths that its pattern matches, and a rule for every path
only to its own name, and even to that only on paths where no matching scope declares it.
-/

namespace QueryGate

/-! ## What a rule for every path matters to -/

/-- Adding a rule does not matter to other names. -/
theorem Rule.lastNamed?_upsert_of_ne {rule : Rule} {name : String} (h : rule.name ≠ name)
    (rules : List Rule) :
    Rule.lastNamed? (upsert rules rule) name = Rule.lastNamed? rules name := by
  induction rules with
  | nil =>
    change Rule.lastNamed? [rule] name = _
    rw [Rule.lastNamed?_cons, if_neg h, Option.or_none]
  | cons first rest ih =>
    unfold upsert
    split
    · next hsame =>
      rw [Rule.lastNamed?_cons, Rule.lastNamed?_cons, if_neg h, if_neg (hsame ▸ h)]
    · rw [Rule.lastNamed?_cons, Rule.lastNamed?_cons, ih]

namespace Policy

variable {policy : Policy} {rule : Rule} {path name : String}

/-- A rule for every path does not matter to other names. -/
theorem governingRule_declare_of_ne (h : rule.name ≠ name) (policy : Policy) (path : String) :
    (policy.declare rule).governingRule path name = policy.governingRule path name := by
  have hconsulted : (policy.declare rule).consulted = policy.consulted := rfl
  unfold governingRule
  rw [hconsulted]
  split
  · rfl
  · exact Rule.lastNamed?_upsert_of_ne h policy.globals

/-- A rule for every path does not matter where a matching scope declares the name. -/
theorem governingRule_declare_of_declares {scope : Scope} (hmem : scope ∈ policy.scopes)
    (happlies : scope.appliesTo path = true) (hdeclares : scope.declares name = true)
    (rule : Rule) :
    (policy.declare rule).governingRule path name = policy.governingRule path name := by
  have hconsulted : (policy.declare rule).consulted = policy.consulted := rfl
  obtain ⟨governing, hfind⟩ := exists_find?_of_declares hmem happlies hdeclares
  unfold governingRule
  rw [hconsulted, hfind]

/-! ## What a scope matters to -/

/-- Extending the scope of a pattern does not matter to scopes with other patterns. -/
theorem mem_extendScope_of_ne {scopes : List Scope} {pattern : String} {scope : Scope}
    (h : scope.pattern ≠ pattern) (params : List Rule) :
    scope ∈ extendScope scopes pattern params ↔ scope ∈ scopes := by
  induction scopes with
  | nil =>
    have hnew : scope ≠ ⟨pattern, params.foldl upsert []⟩ := fun he => h (congrArg _ he)
    unfold extendScope
    simp [hnew]
  | cons first rest ih =>
    unfold extendScope
    split
    · next hsame =>
      have hfirst : scope ≠ first := fun he => h (he ▸ hsame)
      have hextended : scope ≠ { first with params := params.foldl upsert first.params } :=
        fun he => h ((congrArg Scope.pattern he).trans hsame)
      simp [hfirst, hextended]
    · rw [List.mem_cons, List.mem_cons, ih]

/-- Extending the scope of a pattern does not matter to paths that the pattern does not match. -/
theorem mirrorsOn_declareScope {pattern : String}
    (h : (Pattern.ofText pattern).matchesPath path = false) (policy : Policy)
    (params : List Rule) : policy.MirrorsOn (policy.declareScope pattern params) path := by
  have hother : ∀ scope : Scope, scope.appliesTo path = true → scope.pattern ≠ pattern := by
    rintro scope happlies rfl
    have hno : scope.appliesTo path = false := h
    rw [happlies] at hno
    cases hno
  refine ⟨fun _ => .rfl, ?_, ?_⟩
  · intro scope hmem happlies
    exact ⟨scope, (mem_extendScope_of_ne (hother scope happlies) params).mpr hmem, .refl scope⟩
  · intro scope hmem happlies
    exact ⟨scope, (mem_extendScope_of_ne (hother scope happlies) params).mp hmem, .refl scope⟩

end Policy

/-! ## What stays the same at a gate -/

namespace Gate

variable {gate later : Gate} {path name value : String}

/-- Whether a parameter is accepted, by the declared rules. -/
theorem Sound.acceptsParam_eq (h : gate.Sound) (path name value : String) :
    (gate.acceptsParam path name value).1 = (gate.isOpen &&
      (gate.declared.declaresOn (Path.forMatching path) acceptAllName ||
        (gate.declared.governingRule (Path.forMatching path) name).any fun rule =>
          rule.accepts gate.callback value)) := by
  rw [fst_acceptsParam, ← h.boundless_eq, ← h.ruleNamed_eq]
  rfl

/-- A gate agrees on a path with what it becomes by installing a policy in which the same rule
governs each name there. -/
theorem agreesOn_install {policy : Policy}
    (hgoverning : gate.declared.governingRule (Path.forMatching path) =
      policy.governingRule (Path.forMatching path))
    (hinstall : gate.install policy = (.ok (), later)) : gate.AgreesOn later path := by
  obtain ⟨_, rules, _, rfl⟩ := install_eq_ok_iff.mp hinstall
  exact ⟨rfl, rfl, rfl, rfl, hgoverning⟩

/-- A scope that is added successfully is installed. -/
theorem install_of_addScope {pattern : String} {params : List Rule}
    (h : gate.addScope pattern params = (.ok (), later)) :
    gate.install (gate.declared.declareScope
      (String.ofList (Pattern.normalize pattern.toList)) params) = (.ok (), later) := by
  unfold addScope at h
  split at h
  · cases h
  · exact h

/-- A rule for every path changes whether a parameter is accepted only for its own name, and only
where no matching scope declares it. -/
theorem Sound.acceptsParam_addRule (h : gate.Sound) {rule : Rule}
    (hrule : rule.name ≠ acceptAllName) (hadd : gate.addRule rule = (.ok (), later))
    (hname : name ≠ rule.name ∨ ∃ scope ∈ gate.declared.scopes,
      scope.appliesTo (Path.forMatching path) = true ∧ scope.declares name = true) :
    (later.acceptsParam path name value).1 = (gate.acceptsParam path name value).1 := by
  have hlater : later.Sound := h.install (h.distinct.declare rule) hadd
  have hgoverning : (gate.declared.declare rule).governingRule (Path.forMatching path) name =
      gate.declared.governingRule (Path.forMatching path) name := by
    rcases hname with hne | ⟨scope, hmem, happlies, hdeclares⟩
    · exact Policy.governingRule_declare_of_ne hne.symm _ _
    · exact Policy.governingRule_declare_of_declares hmem happlies hdeclares rule
  have hboundless : (gate.declared.declare rule).declaresOn (Path.forMatching path) acceptAllName =
      gate.declared.declaresOn (Path.forMatching path) acceptAllName :=
    Policy.declaresOn_eq_of_governingRule_eq (Policy.governingRule_declare_of_ne hrule _ _)
  obtain ⟨_, rules, _, hchanged⟩ := install_eq_ok_iff.mp hadd
  have hopen : later.isOpen = gate.isOpen := by rw [hchanged]
  have hcallback : later.callback = gate.callback := by rw [hchanged]
  have hdeclared : later.declared = gate.declared.declare rule := by rw [hchanged]
  rw [hlater.acceptsParam_eq, h.acceptsParam_eq, hopen, hcallback, hdeclared, hgoverning,
    hboundless]

/-- Changes of rules are local, at a gate after any session. Adding rules for the paths that a
pattern matches does not change the answer to any question about another path, where the pattern
is the one that the given text stands for and the empty path counts as `/`. Adding a rule for every
path, other than the one for every parameter, does not change whether a parameter of another name
is accepted, nor on a path where a matching scope declares the name whether one of its own name
is. -/
theorem rule_changes_are_local (limits : Limits) (plugins : List Plugin)
    (operations : List Operation) :
    let gate := (new limits plugins).after operations
    (∀ (pattern : String) (params : List Rule) (later : Gate),
      gate.apply (.addScope pattern params) = (.ok (), later) →
      ∀ (questions : List Question) (question : Question),
        (Pattern.ofText (String.ofList (Pattern.normalize pattern.toList))).matchesPath
          (Path.forMatching question.path) = false →
        ((later.afterAsking questions).ask question).1 = (gate.ask question).1) ∧
    ∀ (rule : Rule) (later : Gate), rule.name ≠ acceptAllName →
      gate.apply (.addRule rule) = (.ok (), later) →
      ∀ (questions : List Question) (path name value : String),
        (name ≠ rule.name ∨ ∃ scope ∈ gate.declared.scopes,
          scope.appliesTo (Path.forMatching path) = true ∧ scope.declares name = true) →
        ((later.afterAsking questions).acceptsParam path name value).1 =
          (gate.acceptsParam path name value).1 := by
  intro gate
  have hsound : gate.Sound := (sound_new limits plugins).after operations
  constructor
  · intro pattern params later hadd questions question hpath
    have hinstall := install_of_addScope hadd
    have hmirrors := Policy.mirrorsOn_declareScope hpath gate.declared params
    have hdistinct := hsound.distinct.declareScope
      (String.ofList (Pattern.normalize pattern.toList)) params
    have hagrees : gate.AgreesOn later question.path :=
      agreesOn_install (hmirrors.governingRule_eq hsound.distinct hdistinct) hinstall
    exact (hagrees.fst_ask_afterAsking hsound (hsound.install hdistinct hinstall) []
      questions).symm
  · intro rule later hrule hadd questions path name value hname
    have hlike := later.alike_afterAsking questions
    have hlater : later.Sound := hsound.install (hsound.distinct.declare rule) hadd
    have hasked := hlater.of_alike hlike
    rw [hasked.acceptsParam_eq, hlike.same Gate.isOpen fun _ => rfl,
      hlike.same Gate.declared fun _ => rfl, hlike.same Gate.callback fun _ => rfl,
      ← hlater.acceptsParam_eq]
    exact hsound.acceptsParam_addRule hrule hadd hname

/-- A session that declares a parameter for shops and another one for every path. -/
def declaringShops : List Operation :=
  [.change (.addScope "shops/*" [⟨"page", .range 1 9, false⟩]),
    .change (.addRule ⟨"lang", .any, false⟩)]

/-- Rules for the news do not matter to shops, and neither does a rule for every path whose name
the shops declare. -/
theorem rule_changes_are_local_shops :
    let gate := (new {} []).after declaringShops
    let news := Change.addScope "news*" [.acceptAll]
    let page := Change.addRule ⟨"page", .any, false⟩
    (gate.apply news = (.ok (), (gate.apply news).2) ∧
      (Pattern.ofText (String.ofList (Pattern.normalize "news*".toList))).matchesPath
        (Path.forMatching "/shops/3") = false) ∧
    ((gate.apply news).2.acceptsQuery "/shops/3" "page=2&size=4").1 = false ∧
    (gate.apply page = (.ok (), (gate.apply page).2) ∧
      ∃ scope ∈ gate.declared.scopes,
        scope.appliesTo (Path.forMatching "/shops/3") = true ∧ scope.declares "page" = true) ∧
    ((gate.apply page).2.acceptsParam "/shops/3" "page" "12").1 = false := by
  intro gate news page
  have hnews : gate.apply news = (.ok (), (gate.apply news).2) := by rfl
  have hpage : gate.apply page = (.ok (), (gate.apply page).2) := by rfl
  have helsewhere : (Pattern.ofText (String.ofList (Pattern.normalize "news*".toList))).matchesPath
      (Path.forMatching "/shops/3") = false := by
    decide +kernel
  have hshops : ∃ scope ∈ gate.declared.scopes,
      scope.appliesTo (Path.forMatching "/shops/3") = true ∧ scope.declares "page" = true :=
    ⟨⟨"/shops/*", [⟨"page", .range 1 9, false⟩]⟩, .head _, by decide +kernel⟩
  have hquery : (gate.acceptsQuery "/shops/3" "page=2&size=4").1 = false := by decide +kernel
  have hparam : (gate.acceptsParam "/shops/3" "page" "12").1 = false := by decide +kernel
  obtain ⟨hscopes, hrules⟩ := rule_changes_are_local {} [] declaringShops
  have hsame : ((gate.apply news).2.acceptsQuery "/shops/3" "page=2&size=4").1 =
      (gate.acceptsQuery "/shops/3" "page=2&size=4").1 :=
    Answer.verdict.inj (hscopes "news*" [.acceptAll] _ hnews []
      (.acceptsQuery "/shops/3" "page=2&size=4") helsewhere)
  have hkept := hrules ⟨"page", .any, false⟩ _ (by decide) hpage [] "/shops/3" "page" "12"
    (.inr hshops)
  exact ⟨⟨hnews, helsewhere⟩, hsame.trans hquery, ⟨hpage, hshops⟩, hkept.trans hparam⟩

end Gate

end QueryGate
