import QueryGate.Proofs.Dependence

/-!
# Accepting every parameter

The name that stands for every parameter has a slot like any other name, shared by all scopes. It
takes effect on exactly those paths where a list of rules that counts consists of a rule for it
alone: there nothing is looked at any more, and everywhere else a name that is not declared on the
path is refused.
-/

namespace QueryGate

open QueryGate.Query

/-! ## Where every parameter is accepted -/

/-- A list of rules that consists of a rule for every parameter. -/
def Rule.AcceptsAll (rules : List Rule) : Prop :=
  ∃ rule, rules = [rule] ∧ rule.name = acceptAllName

/-- Orderly rules declare the name that stands for every parameter only if that is all they do. -/
theorem Rule.Orderly.declares_acceptAll_iff {rules : List Rule} (h : Rule.Orderly rules) :
    Rule.declares rules acceptAllName = true ↔ Rule.AcceptsAll rules := by
  rw [Rule.declares_iff]
  constructor
  · rintro ⟨rule, hmem, hname⟩
    exact ⟨rule, h.alone rule hmem hname, hname⟩
  · rintro ⟨rule, rfl, hname⟩
    exact ⟨rule, List.mem_singleton_self rule, hname⟩

/-- On a path the rules for every path, or those of a matching scope, are one for every
parameter. -/
def Policy.AcceptsAllOn (policy : Policy) (path : String) : Prop :=
  Rule.AcceptsAll policy.globals ∨
    ∃ scope ∈ policy.scopes, scope.appliesTo path = true ∧ Rule.AcceptsAll scope.params

/-- In an orderly policy the name that stands for every parameter is declared on exactly the paths
where every parameter is accepted. -/
theorem Policy.Orderly.declaresOn_acceptAll_iff {policy : Policy} (h : policy.Orderly)
    {path : String} :
    policy.declaresOn path acceptAllName = true ↔ policy.AcceptsAllOn path := by
  rw [Policy.declaresOn_iff, or_comm]
  refine or_congr h.globals.declares_acceptAll_iff ?_
  refine exists_congr fun scope => and_congr_right fun hmem => and_congr_right fun _ => ?_
  exact (h.params scope hmem).declares_acceptAll_iff

/-! ## Segments without a rule -/

namespace View

variable {view : View} {path query name : String} {segment : Segment}

/-- A segment is not permitted if its name has no rule. -/
theorem permitted_of_ruleNamed_eq_none (hkey : decode? segment.key = some name)
    (hnone : view.rules.ruleNamed (Path.forMatching path) name = none) :
    view.permitted path segment = false := by
  unfold permitted
  rw [hkey]
  cases decode? segment.value with
  | none => rfl
  | some value =>
    dsimp only
    rw [hnone]
    rfl

/-- Where the segments are looked at, filtering leaves permitted ones only. -/
theorem permitted_of_mem_filtered (hbounded : view.boundless path = false)
    (hmem : segment ∈ segments (view.filtered path query)) :
    view.permitted path segment = true := by
  have houtcome := view.outcome_filtered path query
  generalize view.filtered path query = left at houtcome hmem
  cases houtcome with
  | dropped hrefused => cases hmem
  | whole hfits hbarren hboundless =>
    rw [hbounded] at hboundless
    cases hboundless
  | picked hfits hbarren hboundless hholds =>
    rw [segments_joined_permitted] at hmem
    exact (List.mem_filter.mp hmem).2

/-- Where the segments are looked at, a query is accepted only if all of them are permitted. -/
theorem permitted_of_accepted (hbounded : view.boundless path = false)
    (haccepted : view.accepted path query = true) (hmem : segment ∈ segments query) :
    view.permitted path segment = true := by
  rw [← segments_filtered_of_accepted haccepted] at hmem
  exact permitted_of_mem_filtered hbounded hmem

/-- Where every parameter is accepted, a byte query is. -/
theorem acceptedBytes_of_boundless {query : List UInt8} (hbarren : view.barren path = false)
    (hboundless : view.boundless path = true) : view.acceptedBytes path query = true := by
  unfold acceptedBytes
  rw [hbarren, hboundless]
  simp

end View

/-! ## What a gate accepts without looking -/

namespace Gate

variable {gate : Gate} {path query name : String}

/-- The declared rules of a gate are orderly. -/
theorem Sound.orderly (h : gate.Sound) : gate.declared.Orderly :=
  h.distinct.orderly (Generation.prepare_eq_ok_iff.mp h.current).1

/-- A gate accepts every parameter on exactly the paths where its declared rules say so. -/
theorem Sound.boundless_iff (h : gate.Sound) (path : String) :
    gate.view.boundless path = true ↔ gate.declared.AcceptsAllOn (Path.forMatching path) := by
  rw [h.boundless_eq, h.orderly.declaresOn_acceptAll_iff]

/-- Where every parameter is accepted, some name is declared. -/
theorem Sound.barren_of_boundless (h : gate.Sound) (hboundless : gate.view.boundless path = true) :
    gate.view.barren path = false := by
  by_contra hbarren
  have hnone := (h.barren_iff path).mp (Bool.eq_true_of_not_eq_false hbarren) acceptAllName
  rw [h.boundless_eq, hnone] at hboundless
  cases hboundless

/-- A name that is not declared on a path has no rule there. -/
theorem Sound.ruleNamed_of_not_declared (h : gate.Sound)
    (hnone : gate.declared.declaresOn (Path.forMatching path) name = false) :
    gate.view.rules.ruleNamed (Path.forMatching path) name = none := by
  have hsome := Policy.isSome_governingRule gate.declared (Path.forMatching path) name
  rw [hnone, ← h.ruleNamed_eq] at hsome
  exact Option.isNone_iff_eq_none.mp (Option.isSome_eq_false_iff.mp hsome)

/-- Where every parameter is accepted, an open gate accepts all parameters and all queries that
are not too long, and it leaves such a query as it is up to its fragment. -/
theorem Sound.accepts_of_boundless (h : gate.Sound) (hopen : gate.isOpen = true)
    (hboundless : gate.view.boundless path = true) :
    (∀ name value, (gate.acceptsParam path name value).1 = true) ∧
    (∀ query : String, gate.view.fits path query.utf8ByteSize = true →
      (gate.acceptsQuery path query).1 = true ∧
        (gate.filterQuery path query).1 = beforeFragment query) ∧
    ∀ query : List UInt8, gate.view.fits path query.length = true →
      (gate.acceptsBytes path query).1 = true := by
  have hbarren := h.barren_of_boundless hboundless
  refine ⟨?_, ?_, ?_⟩
  · intro name value
    rw [fst_acceptsParam, hopen, View.acceptedParam, hboundless]
    rfl
  · intro query hfits
    have hbefore := fits_beforeFragment hfits
    rw [fst_acceptsQuery hopen hfits, fst_filterQuery h.pool hopen hfits]
    exact ⟨View.accepted_of_boundless hbefore hbarren hboundless,
      View.filtered_of_boundless hbefore hbarren hboundless⟩
  · intro query hfits
    rw [fst_acceptsBytes, hopen, hfits, View.acceptedBytes_of_boundless hbarren hboundless,
      Bool.or_true]
    rfl

/-- Where not every parameter is accepted, a name that is not declared on the path is refused: as a
parameter, in a query that spells it, and in what is left of a query. -/
theorem Sound.refuses_of_not_declared (h : gate.Sound)
    (hbounded : gate.view.boundless path = false)
    (hnone : gate.declared.declaresOn (Path.forMatching path) name = false) :
    (∀ value, (gate.acceptsParam path name value).1 = false) ∧
    (∀ (query : String) (segment : Segment), segment ∈ segments (beforeFragment query) →
      decode? segment.key = some name → (gate.acceptsQuery path query).1 = false) ∧
    ∀ (query : String) (segment : Segment), segment ∈ segments (gate.filterQuery path query).1 →
      decode? segment.key ≠ some name := by
  have hrule := h.ruleNamed_of_not_declared hnone
  refine ⟨?_, ?_, ?_⟩
  · intro value
    rw [fst_acceptsParam, View.acceptedParam_of_bounded hbounded, View.ruled, hrule]
    exact Bool.and_false _
  · -- Of an accepted query every segment is permitted, and this one has no rule.
    intro query segment hmem hkey
    have hrefused : gate.view.accepted path (beforeFragment query) = false := by
      by_contra haccepted
      have hpermitted := View.permitted_of_accepted hbounded
        (Bool.eq_true_of_not_eq_false haccepted) hmem
      rw [View.permitted_of_ruleNamed_eq_none hkey hrule] at hpermitted
      cases hpermitted
    rw [fst_acceptsQuery_eq_accepted, hrefused, Bool.and_false]
  · intro query segment hmem hkey
    rw [fst_filterQuery_eq_filtered h.pool] at hmem
    split at hmem
    · have hpermitted := View.permitted_of_mem_filtered hbounded hmem
      rw [View.permitted_of_ruleNamed_eq_none hkey hrule] at hpermitted
      cases hpermitted
    · cases hmem

/-- The name that stands for every parameter is exact, at an open gate after any session and any
questions. On a path where the rules for every path or those of a matching scope consist of a rule
of this name alone, every parameter is accepted, and so is every query that is not too long, as
text or as bytes, of which filtering leaves everything before the fragment. On every other path a
name that neither the rules for every path nor a matching scope declares is refused with every
value, in every query with a segment of that name, and filtering leaves no such segment. -/
theorem accept_all_is_exact (limits : Limits) (plugins : List Plugin)
    (operations : List Operation) (questions : List Question) (path : String)
    (hopen : ((new limits plugins).after operations).isOpen = true) :
    let declared := ((new limits plugins).after operations).declared
    let gate := ((new limits plugins).after operations).afterAsking questions
    (declared.AcceptsAllOn (Path.forMatching path) →
      (∀ name value, (gate.acceptsParam path name value).1 = true) ∧
      (∀ query : String, path.utf8ByteSize + 1 + query.utf8ByteSize ≤ limits.maxUrlLength →
        (gate.acceptsQuery path query).1 = true ∧
          (gate.filterQuery path query).1 = beforeFragment query) ∧
      ∀ query : List UInt8, path.utf8ByteSize + 1 + query.length ≤ limits.maxUrlLength →
        (gate.acceptsBytes path query).1 = true) ∧
    (¬declared.AcceptsAllOn (Path.forMatching path) →
      ∀ name, (∀ scope ∈ declared.scopes, scope.appliesTo (Path.forMatching path) = true →
          scope.declares name = false) → Rule.declares declared.globals name = false →
        (∀ value, (gate.acceptsParam path name value).1 = false) ∧
        (∀ (query : String) (segment : Segment), segment ∈ segments (beforeFragment query) →
          decode? segment.key = some name → (gate.acceptsQuery path query).1 = false) ∧
        ∀ (query : String) (segment : Segment),
          segment ∈ segments (gate.filterQuery path query).1 →
          decode? segment.key ≠ some name) := by
  intro declared gate
  have hlike := ((new limits plugins).after operations).alike_afterAsking questions
  have hsound : gate.Sound := ((sound_new limits plugins).after operations).of_alike hlike
  have hgateOpen : gate.isOpen = true := (hlike.same Gate.isOpen fun _ => rfl).trans hopen
  have hdeclared : gate.declared = declared := hlike.same Gate.declared fun _ => rfl
  have hlimits : gate.limits = limits :=
    (hlike.same Gate.limits fun _ => rfl).trans ((new limits plugins).limits_after operations)
  have hfits : ∀ length, path.utf8ByteSize + 1 + length ≤ limits.maxUrlLength →
      gate.view.fits path length = true := by
    intro length hlength
    rw [← hlimits] at hlength
    exact decide_eq_true hlength
  rw [← hdeclared, ← hsound.boundless_iff path]
  constructor
  · intro hboundless
    obtain ⟨hparam, hquery, hbytes⟩ := hsound.accepts_of_boundless hgateOpen hboundless
    exact ⟨hparam, fun query hlength => hquery query (hfits _ hlength),
      fun query hlength => hbytes query (hfits _ hlength)⟩
  · intro hbounded name hscopes hglobals
    exact hsound.refuses_of_not_declared (Bool.eq_false_of_not_eq_true hbounded)
      (Policy.declaresOn_eq_false_iff.mpr ⟨hscopes, hglobals⟩)

/-- A session that declares a parameter for every path and every parameter for open paths. -/
def declaringOpenPaths : List Operation :=
  [.change (.addRule ⟨"lang", .any, false⟩), .change (.addScope "/open/*" [.acceptAll])]

/-- On an open path a query is accepted that cannot be decoded, and elsewhere a name is refused that
is not declared. -/
theorem accept_all_is_exact_open_paths :
    let gate := (new {} []).after declaringOpenPaths
    gate.isOpen = true ∧ gate.declared.AcceptsAllOn (Path.forMatching "/open/x") ∧
      (gate.acceptsQuery "/open/x" "%zz=1&lang").1 = true ∧
      ¬gate.declared.AcceptsAllOn (Path.forMatching "/shop") ∧
      (gate.acceptsQuery "/shop" "lang=en&s%69ze=3").1 = false := by
  intro gate
  have hopen : gate.isOpen = true := by rfl
  have haccepts : gate.declared.AcceptsAllOn (Path.forMatching "/open/x") :=
    .inr ⟨⟨"/open/*", [.acceptAll]⟩, .head _, by decide +kernel, .acceptAll, rfl, rfl⟩
  have hscopes : ∀ scope ∈ gate.declared.scopes,
      scope.appliesTo (Path.forMatching "/shop") = false := by
    decide +kernel
  have hrefuses : ¬gate.declared.AcceptsAllOn (Path.forMatching "/shop") := by
    rintro (⟨rule, hglobals, hname⟩ | ⟨scope, hmem, happlies, _⟩)
    · rw [← (List.cons.inj hglobals).1] at hname
      exact absurd hname (by decide)
    · rw [hscopes scope hmem] at happlies
      cases happlies
  have hnowhere : ∀ scope ∈ gate.declared.scopes,
      scope.appliesTo (Path.forMatching "/shop") = true → scope.declares "size" = false := by
    intro scope hmem happlies
    rw [hscopes scope hmem] at happlies
    cases happlies
  obtain ⟨_, hqueries, _⟩ := (accept_all_is_exact {} [] declaringOpenPaths [] "/open/x" hopen).1
    haccepts
  obtain ⟨_, hrefused, _⟩ := (accept_all_is_exact {} [] declaringOpenPaths [] "/shop" hopen).2
    hrefuses "size" hnowhere (by decide +kernel)
  refine ⟨hopen, haccepts, (hqueries "%zz=1&lang" (by decide +kernel)).1, hrefuses, ?_⟩
  exact hrefused "lang=en&s%69ze=3" (.ofRaw "s%69ze=3".toList) (by decide +kernel)
    (by decide +kernel)

end Gate

end QueryGate
