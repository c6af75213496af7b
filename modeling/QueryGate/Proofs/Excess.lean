import QueryGate.Proofs.AcceptAll
import QueryGate.Proofs.Refusal

/-!
# What exceeds the limits

Whatever exceeds a limit is refused: rule text is not read, a URL or a query is not accepted, and
nothing is left of its parameters. A limit of zero is a limit like any other. What keeps within the
limit for segments is answered as under every greater limit, also in the course of a session, since
the limits for queries have no part in how rules are changed.
-/

namespace QueryGate

open QueryGate.Query

/-! ## Queries with too many segments -/

namespace View

variable {view : View} {path query : String} {more : Nat}

/-- A query with more segments than allowed has too many. -/
theorem holds_eq_false (hmany : view.limits.maxParams < (segments query).length) :
    view.holds query = false :=
  decide_eq_false (Nat.not_le.mpr hmany)

/-- A query with too many segments is refused, unless every parameter is accepted. -/
theorem accepted_of_too_many (hbounded : view.boundless path = false)
    (hmany : view.limits.maxParams < (segments query).length) :
    view.accepted path query = false := by
  have hnonempty : query ≠ "" := by
    rintro rfl
    exact Nat.not_lt_zero _ hmany
  unfold accepted
  rw [hbounded, holds_eq_false hmany]
  simp [hnonempty]

/-- Nothing is left of a query with too many segments, unless every parameter is accepted. -/
theorem filtered_of_too_many (hbounded : view.boundless path = false)
    (hmany : view.limits.maxParams < (segments query).length) : view.filtered path query = "" := by
  unfold filtered selected
  rw [hbounded, holds_eq_false hmany]
  split
  · rfl
  · split <;> rfl

/-- A byte query with too many segments is refused, unless every parameter is accepted. -/
theorem acceptedBytes_of_too_many {query : List UInt8} (hbounded : view.boundless path = false)
    (hmany : view.limits.maxParams < (byteSegments query).length) :
    view.acceptedBytes path query = false := by
  have hnonempty : query ≠ [] := by
    rintro rfl
    exact Nat.not_lt_zero _ hmany
  unfold acceptedBytes
  rw [hbounded, decide_eq_false (Nat.not_le.mpr hmany)]
  simp [hnonempty]

/-! ## A greater limit for segments -/

/-- The view with another limit for segments. -/
def allowing (view : View) (more : Nat) : View :=
  { view with limits := { view.limits with maxParams := more } }

/-- A query within the limit is accepted as under a greater limit. -/
theorem accepted_allowing (view : View) (hfew : (segments query).length ≤ view.limits.maxParams)
    (hmore : view.limits.maxParams ≤ more) :
    (view.allowing more).accepted path query = view.accepted path query := by
  have hholds : (view.allowing more).holds query = view.holds query :=
    (decide_eq_true (hfew.trans hmore)).trans (decide_eq_true hfew).symm
  unfold accepted
  rw [hholds]
  rfl

/-- Of a query within the limit the same is left as under a greater limit. -/
theorem filtered_allowing (view : View) (hfew : (segments query).length ≤ view.limits.maxParams)
    (hmore : view.limits.maxParams ≤ more) :
    (view.allowing more).filtered path query = view.filtered path query := by
  have hholds : (view.allowing more).holds query = true := decide_eq_true (hfew.trans hmore)
  have hholdsFew : view.holds query = true := decide_eq_true hfew
  unfold filtered selected
  rw [take_segments hholds, take_segments hholdsFew, hholds, hholdsFew]
  rfl

/-- A byte query within the limit is accepted as under a greater limit. -/
theorem acceptedBytes_allowing (view : View) {query : List UInt8}
    (hfew : (byteSegments query).length ≤ view.limits.maxParams)
    (hmore : view.limits.maxParams ≤ more) :
    (view.allowing more).acceptedBytes path query = view.acceptedBytes path query := by
  have hholds : decide ((byteSegments query).length ≤ (view.allowing more).limits.maxParams) =
      decide ((byteSegments query).length ≤ view.limits.maxParams) :=
    (decide_eq_true (hfew.trans hmore)).trans (decide_eq_true hfew).symm
  unfold acceptedBytes
  rw [hholds]
  rfl

end View

namespace Gate

variable {gate other later otherLater : Gate} {path query url : String} {more : Nat}

/-! ## Answers beyond the limits -/

/-- A URL that is too long is not accepted. -/
theorem fst_acceptsUrl_of_too_long (hlong : gate.limits.maxUrlLength < url.utf8ByteSize) :
    (gate.acceptsUrl url).1 = false := by
  rw [fst_acceptsUrl, decide_eq_false (Nat.not_le.mpr hlong), Bool.and_false, Bool.false_and]

/-- A URL that is too long is left with its path if it has a query. -/
theorem fst_reduceUrl_of_too_long (hlong : gate.limits.maxUrlLength < url.utf8ByteSize)
    (hquery : (Url.split url).query.isSome = true) (keepFragment : Bool) :
    (gate.reduceUrl keepFragment url).1 = (Url.split url).path := by
  obtain ⟨query, hsome⟩ := Option.isSome_iff_exists.mp hquery
  unfold reduceUrl
  dsimp only
  rw [hsome]
  dsimp only
  rw [decide_eq_true hlong, Bool.or_true, if_pos rfl]

/-- A query that does not fit is not accepted, and nothing is left of it. -/
theorem fst_query_of_not_fits (hfits : gate.view.fits path query.utf8ByteSize = false) :
    (query ≠ "" → (gate.acceptsQuery path query).1 = false) ∧
      (gate.filterQuery path query).1 = "" := by
  constructor
  · intro hnonempty
    rw [fst_acceptsQuery_eq_accepted, hfits]
    simp [hnonempty]
  · unfold filterQuery
    rw [hfits]
    simp

/-- A byte query that does not fit is not accepted. -/
theorem fst_acceptsBytes_of_not_fits {query : List UInt8} (hnonempty : query ≠ [])
    (hfits : gate.view.fits path query.length = false) :
    (gate.acceptsBytes path query).1 = false := by
  rw [fst_acceptsBytes, hfits]
  simp [hnonempty]

/-- Unless every parameter is accepted, a query with too many segments is not accepted, and nothing
is left of it. -/
theorem fst_query_of_too_many {size : Nat} (hpool : gate.pool.Fits size)
    (hbounded : gate.view.boundless path = false)
    (hmany : gate.limits.maxParams < (segments (beforeFragment query)).length) :
    (gate.acceptsQuery path query).1 = false ∧ (gate.filterQuery path query).1 = "" := by
  constructor
  · rw [fst_acceptsQuery_eq_accepted, View.accepted_of_too_many hbounded hmany, Bool.and_false]
  · rw [fst_filterQuery_eq_filtered hpool, View.filtered_of_too_many hbounded hmany, ite_self]

/-- Unless every parameter is accepted, a byte query with too many segments is not accepted. -/
theorem fst_acceptsBytes_of_too_many {query : List UInt8}
    (hbounded : gate.view.boundless path = false)
    (hmany : gate.limits.maxParams < (byteSegments (bytesBeforeFragment query)).length) :
    (gate.acceptsBytes path query).1 = false := by
  rw [fst_acceptsBytes, View.acceptedBytes_of_too_many hbounded hmany, Bool.and_false]

/-- An open gate refuses rule text that is too long. -/
theorem apply_of_too_large (hopen : gate.isOpen = true) {change : Change} {contents : List UInt8}
    (hcontents : change.contents? = some contents)
    (hlarge : gate.limits.maxRulesSize < contents.length) :
    gate.apply change =
      (.error (.rulesTooLarge contents.length gate.limits.maxRulesSize), gate) := by
  rw [apply_of_contents hcontents]
  unfold loadFile
  rw [if_pos hopen]
  exact if_pos hlarge

/-! ## Sessions under other limits for queries -/

/-- Two gates have come to the same rules: they differ at most in the limits for queries and in what
they keep ready. -/
structure SameRules (gate other : Gate) : Prop where
  /-- Rule text may be equally long. -/
  maxRulesSize_eq : gate.limits.maxRulesSize = other.limits.maxRulesSize
  /-- The callback is the same. -/
  callback_eq : gate.callback = other.callback
  /-- The declared rules are the same. -/
  declared_eq : gate.declared = other.declared
  /-- The plugins are the same. -/
  plugins_eq : gate.plugins = other.plugins
  /-- A reset returns to the same plugins. -/
  givenPlugins_eq : gate.givenPlugins = other.givenPlugins
  /-- Both are open, or both are closed. -/
  isOpen_eq : gate.isOpen = other.isOpen
  /-- As many generations were counted. -/
  generation_eq : gate.generation = other.generation

/-- Two updates have the same result and lead to the same rules. -/
structure SameUpdate (update other : Update) : Prop where
  /-- The results are the same. -/
  result_eq : update.1 = other.1
  /-- The gates have come to the same rules. -/
  gates : SameRules update.2 other.2

namespace SameRules

/-- Questions lead to no other rules. -/
theorem of_alike (h : SameRules gate other) (hlike : Alike gate later)
    (hother : Alike other otherLater) : SameRules later otherLater where
  maxRulesSize_eq := by
    rw [hlike.same Gate.limits fun _ => rfl, hother.same Gate.limits fun _ => rfl,
      h.maxRulesSize_eq]
  callback_eq := by
    rw [hlike.same Gate.callback fun _ => rfl, hother.same Gate.callback fun _ => rfl,
      h.callback_eq]
  declared_eq := by
    rw [hlike.same Gate.declared fun _ => rfl, hother.same Gate.declared fun _ => rfl,
      h.declared_eq]
  plugins_eq := by
    rw [hlike.same Gate.plugins fun _ => rfl, hother.same Gate.plugins fun _ => rfl, h.plugins_eq]
  givenPlugins_eq := by
    rw [hlike.same Gate.givenPlugins fun _ => rfl, hother.same Gate.givenPlugins fun _ => rfl,
      h.givenPlugins_eq]
  isOpen_eq := by
    rw [hlike.same Gate.isOpen fun _ => rfl, hother.same Gate.isOpen fun _ => rfl, h.isOpen_eq]
  generation_eq := by
    rw [hlike.same Gate.generation fun _ => rfl, hother.same Gate.generation fun _ => rfl,
      h.generation_eq]

/-- Without rules the gates have the same rules. -/
theorem withoutRules (h : SameRules gate other) :
    SameRules gate.withoutRules other.withoutRules where
  maxRulesSize_eq := h.maxRulesSize_eq
  callback_eq := rfl
  declared_eq := rfl
  plugins_eq := h.plugins_eq
  givenPlugins_eq := h.givenPlugins_eq
  isOpen_eq := h.isOpen_eq
  generation_eq := congrArg (· + 1) h.generation_eq

/-- A policy is installed at both gates, or at neither. -/
theorem install (h : SameRules gate other) (policy : Policy) :
    SameUpdate (gate.install policy) (other.install policy) := by
  unfold Gate.install
  rw [← h.isOpen_eq, ← h.generation_eq]
  split
  · dsimp only
    cases Generation.prepare policy (gate.generation + 1) with
    | error error => exact ⟨rfl, h⟩
    | ok rules =>
      exact ⟨rfl, h.maxRulesSize_eq, h.callback_eq, rfl, h.plugins_eq, h.givenPlugins_eq,
        rfl, rfl⟩
  · exact ⟨rfl, h⟩

/-- A text is loaded at both gates, or at neither. -/
theorem loadText (h : SameRules gate other) (text : String) :
    SameUpdate (gate.loadText text) (other.loadText text) := by
  unfold Gate.loadText
  rw [← h.isOpen_eq, ← h.maxRulesSize_eq, ← h.plugins_eq]
  split
  · split
    · exact ⟨rfl, h⟩
    · cases Policy.parse gate.plugins text with
      | error error => exact ⟨rfl, h⟩
      | ok policy => exact h.install policy
  · exact ⟨rfl, h⟩

/-- A file is loaded at both gates, or at neither. -/
theorem loadFile (h : SameRules gate other) (contents : Option (List UInt8)) :
    SameUpdate (gate.loadFile contents) (other.loadFile contents) := by
  unfold Gate.loadFile
  rw [← h.isOpen_eq, ← h.maxRulesSize_eq]
  split
  · cases contents with
    | none => exact ⟨rfl, h⟩
    | some contents =>
      dsimp only
      split
      · exact ⟨rfl, h⟩
      · cases Text.ofBytes? contents with
        | none => exact ⟨rfl, h⟩
        | some text => exact h.loadText text
  · exact ⟨rfl, h⟩

/-- A change is made at both gates, or at neither. -/
theorem apply (h : SameRules gate other) (change : Change) :
    SameUpdate (gate.apply change) (other.apply change) := by
  cases change with
  | loadText text => exact h.loadText text
  | loadFile contents => exact h.loadFile contents
  | addRule rule =>
    change SameUpdate (gate.install (gate.declared.declare rule)) (other.install _)
    rw [h.declared_eq]
    exact h.install _
  | addScope pattern params =>
    change SameUpdate (gate.addScope pattern params) (other.addScope pattern params)
    unfold Gate.addScope
    rw [h.declared_eq]
    split
    · exact ⟨rfl, h⟩
    · exact h.install _
  | setCallback callback =>
    change SameUpdate (gate.setCallback callback) (other.setCallback callback)
    unfold Gate.setCallback
    rw [← h.isOpen_eq]
    split
    · exact ⟨rfl, h.maxRulesSize_eq, rfl, h.declared_eq, h.plugins_eq, h.givenPlugins_eq, rfl,
        h.generation_eq⟩
    · exact ⟨rfl, h⟩
  | clear => exact h.install .empty
  | reset =>
    have hnone := h.withoutRules
    change SameUpdate gate.reset other.reset
    unfold Gate.reset
    rw [← h.isOpen_eq]
    split
    · exact ⟨rfl, hnone.maxRulesSize_eq, rfl, rfl, h.givenPlugins_eq, h.givenPlugins_eq,
        hnone.isOpen_eq, hnone.generation_eq⟩
    · exact ⟨rfl, h⟩
  | addPlugin plugin =>
    change SameUpdate (gate.addPlugin plugin) (other.addPlugin plugin)
    unfold Gate.addPlugin
    rw [← h.isOpen_eq]
    split
    · exact ⟨rfl, h.maxRulesSize_eq, h.callback_eq, h.declared_eq,
        congrArg (· ++ [plugin]) h.plugins_eq, h.givenPlugins_eq, rfl, h.generation_eq⟩
    · exact ⟨rfl, h⟩

/-- An operation leads to the same rules at both gates. -/
theorem perform (h : SameRules gate other) (operation : Operation) :
    SameRules (gate.perform operation).2 (other.perform operation).2 := by
  cases operation with
  | change change => exact (h.apply change).gates
  | close =>
    have hnone := h.withoutRules
    change SameRules gate.close.gate other.close.gate
    unfold Gate.close
    rw [← h.isOpen_eq]
    split
    · exact ⟨hnone.maxRulesSize_eq, rfl, rfl, h.plugins_eq, h.givenPlugins_eq, rfl,
        hnone.generation_eq⟩
    · exact h
  | ask question => exact h.of_alike (gate.alike_ask question) (other.alike_ask question)
  | look look => exact h

/-- A session leads to the same rules at both gates. -/
theorem after (h : SameRules gate other) (operations : List Operation) :
    SameRules (gate.after operations) (other.after operations) := by
  induction operations generalizing gate other with
  | nil => exact h
  | cons operation operations ih => exact ih (h.perform operation)

end SameRules

/-- The number of segments of the query that a question is about. -/
def Question.segmentCount : Question → Nat
  | acceptsUrl url => ((Url.split url).query.elim [] segments).length
  | acceptsQuery _ query => (segments (beforeFragment query)).length
  | acceptsBytes _ query => (byteSegments (bytesBeforeFragment query)).length
  | acceptsParam .. => 0
  | filterUrl url => ((Url.split url).query.elim [] segments).length
  | filterQuery _ query => (segments (beforeFragment query)).length
  | canonicalUrl url => ((Url.split url).query.elim [] segments).length
  | inspectKept .. => 0

/-- The gate with another limit for segments. -/
def allowing (gate : Gate) (more : Nat) : Gate :=
  { gate with limits := { gate.limits with maxParams := more } }

/-- Another limit for segments leaves a gate sound. -/
theorem Sound.allowing (h : gate.Sound) (more : Nat) : (gate.allowing more).Sound :=
  ⟨h.current, h.distinct, h.pool⟩

/-- A URL within the limit for segments is accepted as under a greater limit. -/
theorem fst_acceptsUrl_allowing
    (hfew : ((Url.split url).query.elim [] segments).length ≤ gate.limits.maxParams)
    (hmore : gate.limits.maxParams ≤ more) :
    ((gate.allowing more).acceptsUrl url).1 = (gate.acceptsUrl url).1 := by
  rw [fst_acceptsUrl, fst_acceptsUrl]
  cases hquery : (Url.split url).query with
  | none => rfl
  | some query =>
    rw [hquery] at hfew
    have haccepted : (gate.allowing more).view.accepted (Url.split url).path query =
        gate.view.accepted (Url.split url).path query :=
      gate.view.accepted_allowing hfew hmore
    rw [Option.all_some, Option.all_some, haccepted]
    rfl

/-- A URL within the limit for segments is reduced as under a greater limit. -/
theorem fst_reduceUrl_allowing (hsound : gate.Sound)
    (hfew : ((Url.split url).query.elim [] segments).length ≤ gate.limits.maxParams)
    (hmore : gate.limits.maxParams ≤ more) (keepFragment : Bool) :
    ((gate.allowing more).reduceUrl keepFragment url).1 = (gate.reduceUrl keepFragment url).1 := by
  rw [fst_reduceUrl (hsound.allowing more).pool, fst_reduceUrl hsound.pool]
  unfold remainder
  cases hquery : (Url.split url).query with
  | none => rfl
  | some query =>
    rw [hquery] at hfew
    have hfiltered : (gate.allowing more).view.filtered (Url.split url).path query =
        gate.view.filtered (Url.split url).path query :=
      gate.view.filtered_allowing hfew hmore
    dsimp only
    rw [hfiltered]
    rfl

/-- A query within the limit for segments is accepted as under a greater limit. -/
theorem fst_acceptsQuery_allowing
    (hfew : (segments (beforeFragment query)).length ≤ gate.limits.maxParams)
    (hmore : gate.limits.maxParams ≤ more) :
    ((gate.allowing more).acceptsQuery path query).1 = (gate.acceptsQuery path query).1 := by
  have haccepted : (gate.allowing more).view.accepted path (beforeFragment query) =
      gate.view.accepted path (beforeFragment query) :=
    gate.view.accepted_allowing hfew hmore
  rw [fst_acceptsQuery_eq_accepted, fst_acceptsQuery_eq_accepted, haccepted]
  rfl

/-- A byte query within the limit for segments is accepted as under a greater limit. -/
theorem fst_acceptsBytes_allowing {query : List UInt8}
    (hfew : (byteSegments (bytesBeforeFragment query)).length ≤ gate.limits.maxParams)
    (hmore : gate.limits.maxParams ≤ more) :
    ((gate.allowing more).acceptsBytes path query).1 = (gate.acceptsBytes path query).1 := by
  have haccepted : (gate.allowing more).view.acceptedBytes path (bytesBeforeFragment query) =
      gate.view.acceptedBytes path (bytesBeforeFragment query) :=
    gate.view.acceptedBytes_allowing hfew hmore
  rw [fst_acceptsBytes, fst_acceptsBytes, haccepted]
  rfl

/-- Of a query within the limit for segments the same is left as under a greater limit. -/
theorem fst_filterQuery_allowing (hsound : gate.Sound)
    (hfew : (segments (beforeFragment query)).length ≤ gate.limits.maxParams)
    (hmore : gate.limits.maxParams ≤ more) :
    ((gate.allowing more).filterQuery path query).1 = (gate.filterQuery path query).1 := by
  have hfiltered : (gate.allowing more).view.filtered path (beforeFragment query) =
      gate.view.filtered path (beforeFragment query) :=
    gate.view.filtered_allowing hfew hmore
  rw [fst_filterQuery_eq_filtered (hsound.allowing more).pool,
    fst_filterQuery_eq_filtered hsound.pool, hfiltered]
  rfl

/-- A question within the limit for segments is answered as under a greater limit. -/
theorem fst_ask_allowing (hsound : gate.Sound) {question : Question}
    (hfew : question.segmentCount ≤ gate.limits.maxParams) (hmore : gate.limits.maxParams ≤ more) :
    ((gate.allowing more).ask question).1 = (gate.ask question).1 := by
  cases question with
  | acceptsUrl url => exact congrArg Answer.verdict (fst_acceptsUrl_allowing hfew hmore)
  | acceptsQuery path query =>
    exact congrArg Answer.verdict (fst_acceptsQuery_allowing hfew hmore)
  | acceptsBytes path query =>
    exact congrArg Answer.verdict (fst_acceptsBytes_allowing hfew hmore)
  | acceptsParam path name value =>
    have hanswer := (fst_acceptsParam (gate.allowing more) path name value).trans
      (fst_acceptsParam gate path name value).symm
    exact congrArg Answer.verdict hanswer
  | filterUrl url => exact congrArg Answer.text (fst_reduceUrl_allowing hsound hfew hmore true)
  | filterQuery path query =>
    exact congrArg Answer.text (fst_filterQuery_allowing hsound hfew hmore)
  | canonicalUrl url =>
    exact congrArg Answer.text (fst_reduceUrl_allowing hsound hfew hmore false)
  | inspectKept kept path name =>
    have hanswer := (fst_inspectKept (gate.allowing more) kept path name).trans
      (fst_inspectKept gate kept path name).symm
    exact congrArg Answer.inspection hanswer

/-- After the same session, a question within the limit for segments is answered as under a greater
limit, whatever was asked before. -/
theorem fst_ask_of_greater_limit {limits : Limits} {question : Question}
    (hfew : question.segmentCount ≤ limits.maxParams) (hmore : limits.maxParams ≤ more)
    (plugins : List Plugin) (operations : List Operation)
    (questions otherQuestions : List Question) :
    ((((new limits plugins).after operations).afterAsking questions).ask question).1 =
      ((((new { limits with maxParams := more } plugins).after operations).afterAsking
        otherQuestions).ask question).1 := by
  let generous : Limits := { limits with maxParams := more }
  have hsound := (sound_new limits plugins).after operations
  have hother := (sound_new generous plugins).after operations
  have hlimits : ((new limits plugins).after operations).limits = limits :=
    (new limits plugins).limits_after operations
  have hlength : ((new limits plugins).after operations).limits.maxUrlLength =
      limits.maxUrlLength := congrArg Limits.maxUrlLength hlimits
  have hotherLimits : ((new generous plugins).after operations).limits = generous :=
    (new generous plugins).limits_after operations
  have hfresh : SameRules (new limits plugins) (new generous plugins) :=
    ⟨rfl, rfl, rfl, rfl, rfl, rfl, rfl⟩
  have hrules := hfresh.after operations
  have hagrees : (((new limits plugins).after operations).allowing more).AgreesOn
      ((new generous plugins).after operations) question.path := by
    refine ⟨hrules.isOpen_eq, ?_, ?_, hrules.callback_eq, ?_⟩
    · rw [hotherLimits]
      exact hlength
    · rw [hotherLimits]
      rfl
    · rw [← hrules.declared_eq]
      rfl
  rw [← hlimits] at hfew hmore
  calc ((((new limits plugins).after operations).afterAsking questions).ask question).1
    _ = (((new limits plugins).after operations).ask question).1 :=
      AgreesOn.fst_ask_afterAsking ⟨rfl, rfl, rfl, rfl, rfl⟩ hsound hsound questions []
    _ = ((((new limits plugins).after operations).allowing more).ask question).1 :=
      (fst_ask_allowing hsound hfew hmore).symm
    _ = _ := hagrees.fst_ask_afterAsking (hsound.allowing more) hother [] otherQuestions

/-- After any session, with any limits and any questions in between: a URL that is too long is not
accepted, and is left with its path if it has a query. A query that is too long, together with its
path and its fragment, is not accepted, and nothing is left of it. Neither is it if it has more
segments before its fragment than allowed, whichever they are, unless every parameter is accepted on
the path. What has no more segments than allowed is answered as after the same session under every
greater limit for them. As long as the gate is open, rule text that is too long changes nothing. -/
theorem limits_fail_closed (limits : Limits) (plugins : List Plugin)
    (operations : List Operation) (questions : List Question) :
    let gate := (new limits plugins).after operations
    let later := gate.afterAsking questions
    (∀ url : String, limits.maxUrlLength < url.utf8ByteSize →
      (later.acceptsUrl url).1 = false ∧
        ((Url.split url).query.isSome = true →
          (later.filterUrl url).1 = (Url.split url).path ∧
            (later.canonicalUrl url).1 = (Url.split url).path)) ∧
    (∀ path query : String, query ≠ "" →
      limits.maxUrlLength < path.utf8ByteSize + 1 + query.utf8ByteSize →
      (later.acceptsQuery path query).1 = false ∧ (later.filterQuery path query).1 = "") ∧
    (∀ (path : String) (query : List UInt8), query ≠ [] →
      limits.maxUrlLength < path.utf8ByteSize + 1 + query.length →
      (later.acceptsBytes path query).1 = false) ∧
    (∀ path : String, ¬gate.declared.AcceptsAllOn (Path.forMatching path) →
      (∀ query : String, limits.maxParams < (segments (beforeFragment query)).length →
        (later.acceptsQuery path query).1 = false ∧ (later.filterQuery path query).1 = "") ∧
      ∀ query : List UInt8, limits.maxParams < (byteSegments (bytesBeforeFragment query)).length →
        (later.acceptsBytes path query).1 = false) ∧
    (∀ more : Nat, limits.maxParams ≤ more → ∀ question : Question,
      question.segmentCount ≤ limits.maxParams → ∀ otherQuestions : List Question,
      (later.ask question).1 =
        ((((new { limits with maxParams := more } plugins).after operations).afterAsking
          otherQuestions).ask question).1) ∧
    (later.isOpen = true → ∀ (change : Change) (contents : List UInt8),
      change.contents? = some contents → limits.maxRulesSize < contents.length →
      later.apply change =
        (.error (.rulesTooLarge contents.length limits.maxRulesSize), later)) := by
  intro gate later
  have hlike : Alike gate later := gate.alike_afterAsking questions
  have hsound : later.Sound := ((sound_new limits plugins).after operations).of_alike hlike
  have hdeclared : later.declared = gate.declared := hlike.same Gate.declared fun _ => rfl
  have hlimits : later.limits = limits :=
    (hlike.same Gate.limits fun _ => rfl).trans ((new limits plugins).limits_after operations)
  have hfits : ∀ (path : String) (length : Nat),
      limits.maxUrlLength < path.utf8ByteSize + 1 + length →
      later.view.fits path length = false := by
    intro path length hlong
    rw [← hlimits] at hlong
    exact decide_eq_false (Nat.not_le.mpr hlong)
  refine ⟨?_, ?_, ?_, ?_, ?_, ?_⟩
  · intro url hlong
    rw [← hlimits] at hlong
    exact ⟨fst_acceptsUrl_of_too_long hlong, fun hquery =>
      ⟨fst_reduceUrl_of_too_long hlong hquery true, fst_reduceUrl_of_too_long hlong hquery false⟩⟩
  · intro path query hnonempty hlong
    obtain ⟨haccepts, hfilter⟩ := fst_query_of_not_fits (hfits path _ hlong)
    exact ⟨haccepts hnonempty, hfilter⟩
  · intro path query hnonempty hlong
    exact fst_acceptsBytes_of_not_fits hnonempty (hfits path _ hlong)
  · intro path hall
    rw [← hdeclared, ← hsound.boundless_iff, Bool.not_eq_true] at hall
    rw [← hlimits]
    exact ⟨fun query hmany => fst_query_of_too_many hsound.pool hall hmany,
      fun query hmany => fst_acceptsBytes_of_too_many hall hmany⟩
  · intro more hmore question hfew otherQuestions
    exact fst_ask_of_greater_limit hfew hmore plugins operations questions otherQuestions
  · intro hopen change contents hcontents hlarge
    rw [← hlimits] at hlarge ⊢
    exact apply_of_too_large hopen hcontents hlarge

/-- A gate that allows one segment, URLs of twenty-four bytes and no rule text. -/
theorem limits_fail_closed_narrow :
    let limits : Limits := { maxRulesSize := 0, maxUrlLength := 24, maxParams := 1 }
    let gate := (new limits []).after declaringNameAndAge
    (gate.acceptsUrl "/people?name=Ada&age=36#x").1 = false ∧
      (gate.filterUrl "/people?name=Ada&age=36#x").1 = "/people" ∧
    ((gate.acceptsQuery "/people" "name=Ada#more-or-less").1 = false ∧
      (gate.filterQuery "/people" "name=Ada#more-or-less").1 = "") ∧
    (gate.acceptsBytes "/people" (Text.bytes "name=Ada#more-or-less")).1 = false ∧
    (gate.filterQuery "/people" "name=Ada&x").1 = "" ∧
    (gate.acceptsBytes "/people" (Text.bytes "name=Ada&x")).1 = false ∧
    (gate.ask (.filterQuery "/people" "&name=Ada&#x&y")).1 =
      (((new { limits with maxParams := 100 } []).after declaringNameAndAge).ask
        (.filterQuery "/people" "&name=Ada&#x&y")).1 ∧
    gate.apply (.loadText "lang") = (.error (.rulesTooLarge 4 0), gate) := by
  intro limits gate
  have hbounded : ¬gate.declared.AcceptsAllOn (Path.forMatching "/people") := by
    rintro (⟨rule, hglobals, hname⟩ | ⟨scope, hmem, _⟩)
    · rw [← (List.cons.inj hglobals).1] at hname
      exact absurd hname (by decide)
    · cases hmem
  obtain ⟨hurl, hlong, hbytes, hmany, hfew, hrules⟩ :=
    limits_fail_closed limits [] declaringNameAndAge []
  obtain ⟨hqueries, hbyteQueries⟩ := hmany "/people" hbounded
  obtain ⟨haccepts, hleft⟩ := hurl "/people?name=Ada&age=36#x" (by decide +kernel)
  refine ⟨haccepts, ?_, hlong _ _ (by decide) (by decide +kernel),
    hbytes _ _ (by decide +kernel) (by decide +kernel), (hqueries _ (by decide +kernel)).2,
    hbyteQueries _ (by decide +kernel), hfew 100 (by decide) _ (by decide +kernel) [],
    hrules rfl (.loadText "lang") (Text.bytes "lang") rfl (by decide +kernel)⟩
  exact (hleft (by decide +kernel)).1.trans (by decide +kernel)

end Gate

end QueryGate
