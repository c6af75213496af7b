import QueryGate.Proofs.ByteQuery
import QueryGate.Proofs.Governing

/-!
# What answers depend on

An answer about a path depends on whether the gate is open, on the limits for queries, on the
callback and on which rule governs which name on the path, and on nothing else. In particular it
does not depend on how many pattern expressions and buffers a gate may keep, nor on the questions
that it has answered before.
-/

namespace QueryGate

open QueryGate.Query

/-! ## Views that agree -/

namespace View

/-- Two views judge by the same limits and callback, and their rules say the same about a path. -/
structure AgreesOn (view other : View) (path : String) : Prop where
  /-- Queries may be equally long. -/
  maxUrlLength_eq : view.limits.maxUrlLength = other.limits.maxUrlLength
  /-- Queries may have equally many segments. -/
  maxParams_eq : view.limits.maxParams = other.limits.maxParams
  /-- The callback is the same. -/
  callback_eq : view.callback = other.callback
  /-- Both or neither declare a name for the path. -/
  barren_eq : view.barren path = other.barren path
  /-- Both or neither accept every parameter. -/
  boundless_eq : view.boundless path = other.boundless path
  /-- Names have the same rules. -/
  ruleNamed_eq : view.rules.ruleNamed (Path.forMatching path) =
    other.rules.ruleNamed (Path.forMatching path)

namespace AgreesOn

variable {view other : View} {path : String}

/-- The same lengths fit. -/
theorem fits_eq (h : view.AgreesOn other path) : view.fits path = other.fits path := by
  funext length
  unfold fits
  rw [h.maxUrlLength_eq]

/-- The same queries have too many segments. -/
theorem holds_eq (h : view.AgreesOn other path) : view.holds = other.holds := by
  funext query
  unfold holds
  rw [h.maxParams_eq]

/-- Rules accept the same parameters. -/
theorem ruled_eq (h : view.AgreesOn other path) : view.ruled path = other.ruled path := by
  funext param
  unfold ruled
  rw [h.ruleNamed_eq, h.callback_eq]

/-- The same parameters are accepted. -/
theorem acceptedParam_eq (h : view.AgreesOn other path) :
    view.acceptedParam path = other.acceptedParam path := by
  funext param
  unfold acceptedParam
  rw [h.boundless_eq, h.ruled_eq]

/-- The same segments are permitted. -/
theorem permitted_eq (h : view.AgreesOn other path) :
    view.permitted path = other.permitted path := by
  funext segment
  rw [permitted_eq_ruled, permitted_eq_ruled, h.ruled_eq]

/-- The same queries are accepted. -/
theorem accepted_eq (h : view.AgreesOn other path) : view.accepted path = other.accepted path := by
  funext query
  unfold accepted
  rw [h.fits_eq, h.barren_eq, h.boundless_eq, h.holds_eq, h.permitted_eq]

/-- The same byte queries are accepted. -/
theorem acceptedBytes_eq (h : view.AgreesOn other path) :
    view.acceptedBytes path = other.acceptedBytes path := by
  funext query
  unfold acceptedBytes
  rw [h.barren_eq, h.boundless_eq, h.maxParams_eq, h.ruled_eq]

/-- The same is left of queries. -/
theorem filtered_eq (h : view.AgreesOn other path) : view.filtered path = other.filtered path := by
  funext query
  unfold filtered selected
  rw [h.fits_eq, h.barren_eq, h.boundless_eq, h.maxParams_eq, h.holds_eq, h.permitted_eq]

end AgreesOn

end View

namespace Gate

/-- The path that a question is about. -/
def Question.path : Question → String
  | acceptsUrl url => (Url.split url).path
  | acceptsQuery path _ => path
  | acceptsBytes path _ => path
  | acceptsParam path _ _ => path
  | filterUrl url => (Url.split url).path
  | filterQuery path _ => path
  | canonicalUrl url => (Url.split url).path
  | inspectKept _ path _ => path

variable {gate other later : Gate} {path : String}

/-! ## The rules of a gate, by names -/

/-- A name has the rule that governs it in the declared rules. -/
theorem Sound.ruleNamed_eq (h : gate.Sound) (path : String) :
    gate.rules.ruleNamed path = gate.declared.governingRule path := by
  obtain ⟨_, hrules⟩ := Generation.prepare_eq_ok_iff.mp h.current
  funext name
  rw [hrules, Generation.ruleNamed_build]

/-- Every parameter is accepted on a path where the name is declared that stands for it. -/
theorem Sound.boundless_eq (h : gate.Sound) (path : String) :
    gate.view.boundless path = gate.declared.declaresOn (Path.forMatching path) acceptAllName := by
  obtain ⟨_, hrules⟩ := Generation.prepare_eq_ok_iff.mp h.current
  change gate.rules.acceptsAll (gate.rules.coverageAt (Path.forMatching path)) = _
  rw [hrules, Generation.acceptsAll_build]

/-- No parameter can be accepted on a path where no name is declared. -/
theorem Sound.barren_iff (h : gate.Sound) (path : String) :
    gate.view.barren path = true ↔
      ∀ name, gate.declared.declaresOn (Path.forMatching path) name = false := by
  obtain ⟨_, hrules⟩ := Generation.prepare_eq_ok_iff.mp h.current
  change (gate.rules.coverageAt (Path.forMatching path)).combined.isEmpty = true ↔ _
  rw [hrules, Generation.isEmpty_combined_build_iff]

/-! ## Gates that agree -/

/-- Two gates are both open or both closed, have the same limits for queries and the same callback,
and their declared rules say the same about a path. -/
structure AgreesOn (gate other : Gate) (path : String) : Prop where
  /-- Both are open, or both are closed. -/
  isOpen_eq : gate.isOpen = other.isOpen
  /-- URLs may be equally long. -/
  maxUrlLength_eq : gate.limits.maxUrlLength = other.limits.maxUrlLength
  /-- Queries may have equally many segments. -/
  maxParams_eq : gate.limits.maxParams = other.limits.maxParams
  /-- The callback is the same. -/
  callback_eq : gate.callback = other.callback
  /-- The same rule governs each name. -/
  governingRule_eq : gate.declared.governingRule (Path.forMatching path) =
    other.declared.governingRule (Path.forMatching path)

/-- Gates that agree on a path judge alike there. -/
theorem AgreesOn.view (h : gate.AgreesOn other path) (hsound : gate.Sound)
    (hother : other.Sound) : gate.view.AgreesOn other.view path := by
  have hdeclares : gate.declared.declaresOn (Path.forMatching path) =
      other.declared.declaresOn (Path.forMatching path) := by
    funext name
    exact Policy.declaresOn_eq_of_governingRule_eq (congrFun h.governingRule_eq name)
  refine ⟨h.maxUrlLength_eq, h.maxParams_eq, h.callback_eq, ?_, ?_, ?_⟩
  · rw [Bool.eq_iff_iff, hsound.barren_iff, hother.barren_iff, hdeclares]
  · rw [hsound.boundless_eq, hother.boundless_eq, hdeclares]
  · exact (hsound.ruleNamed_eq _).trans (h.governingRule_eq.trans (hother.ruleNamed_eq _).symm)

/-- Whether a gate accepts a query, in every case. -/
theorem fst_acceptsQuery_eq_accepted (gate : Gate) (path query : String) :
    (gate.acceptsQuery path query).1 = (gate.isOpen &&
      (query.isEmpty || gate.view.fits path query.utf8ByteSize) &&
      gate.view.accepted path (beforeFragment query)) := by
  cases hopen : gate.isOpen with
  | false =>
    unfold acceptsQuery
    rw [hopen]
    rfl
  | true =>
    cases hfits : gate.view.fits path query.utf8ByteSize with
    | true =>
      rw [fst_acceptsQuery hopen hfits, Bool.or_true]
      rfl
    | false =>
      unfold acceptsQuery
      rw [hopen, hfits]
      by_cases hempty : query = ""
      · subst hempty
        rfl
      · have hnonempty : query.isEmpty = false := by simpa using hempty
        rw [hnonempty]
        rfl

/-- What a gate leaves of a query, in every case. -/
theorem fst_filterQuery_eq_filtered {size : Nat} (hpool : gate.pool.Fits size)
    (path query : String) :
    (gate.filterQuery path query).1 =
      if gate.isOpen && gate.view.fits path query.utf8ByteSize then
        gate.view.filtered path (beforeFragment query)
      else "" := by
  split
  · next hjudged =>
    obtain ⟨hopen, hfits⟩ := (Bool.and_eq_true _ _).mp hjudged
    exact fst_filterQuery hpool hopen hfits
  · next hjudged =>
    unfold filterQuery
    rw [if_pos]
    cases hopen : gate.isOpen <;> simp_all

/-- What a kept generation says about a name on a path, computed without kept expressions. -/
def inspectionOf (kept : Generation) (path name : String) : Inspection :=
  ⟨kept.number, kept.acceptsAll (kept.coverageAt path), kept.ruleNamed path name⟩

/-- Kept expressions do not change what a kept generation says. -/
theorem yields_inspect (kept : Generation) (path name : String) :
    Lookup.Yields (inspect kept path name) (inspectionOf kept path name) :=
  (kept.yields_coverage path).bind ((kept.yields_ruleFor path name).map _)

/-- What a kept generation says does not depend on the gate. -/
theorem fst_inspectKept (gate : Gate) (kept : Generation) (path name : String) :
    (gate.inspectKept kept path name).1 = inspectionOf kept path name := by
  unfold inspectKept
  split
  · exact yields_inspect kept path name gate.globs
  · exact yields_inspect kept path name _

namespace AgreesOn

/-- Gates that agree on the path of a URL accept the URL alike. -/
theorem fst_acceptsUrl_eq {url : String} (h : gate.AgreesOn other (Url.split url).path)
    (hsound : gate.Sound) (hother : other.Sound) :
    (gate.acceptsUrl url).1 = (other.acceptsUrl url).1 := by
  rw [fst_acceptsUrl, fst_acceptsUrl, h.isOpen_eq, h.maxUrlLength_eq,
    (h.view hsound hother).accepted_eq]

/-- Gates that agree on a path accept the same queries. -/
theorem fst_acceptsQuery_eq (h : gate.AgreesOn other path) (hsound : gate.Sound)
    (hother : other.Sound) (query : String) :
    (gate.acceptsQuery path query).1 = (other.acceptsQuery path query).1 := by
  have hview := h.view hsound hother
  rw [fst_acceptsQuery_eq_accepted, fst_acceptsQuery_eq_accepted, h.isOpen_eq, hview.fits_eq,
    hview.accepted_eq]

/-- Gates that agree on a path accept the same byte queries. -/
theorem fst_acceptsBytes_eq (h : gate.AgreesOn other path) (hsound : gate.Sound)
    (hother : other.Sound) (query : List UInt8) :
    (gate.acceptsBytes path query).1 = (other.acceptsBytes path query).1 := by
  have hview := h.view hsound hother
  rw [fst_acceptsBytes, fst_acceptsBytes, h.isOpen_eq, hview.fits_eq, hview.acceptedBytes_eq]

/-- Gates that agree on a path accept the same parameters. -/
theorem fst_acceptsParam_eq (h : gate.AgreesOn other path) (hsound : gate.Sound)
    (hother : other.Sound) (name value : String) :
    (gate.acceptsParam path name value).1 = (other.acceptsParam path name value).1 := by
  rw [fst_acceptsParam, fst_acceptsParam, h.isOpen_eq, (h.view hsound hother).acceptedParam_eq]

/-- Gates that agree on a path leave the same of a query. -/
theorem fst_filterQuery_eq (h : gate.AgreesOn other path) (hsound : gate.Sound)
    (hother : other.Sound) (query : String) :
    (gate.filterQuery path query).1 = (other.filterQuery path query).1 := by
  have hview := h.view hsound hother
  rw [fst_filterQuery_eq_filtered hsound.pool, fst_filterQuery_eq_filtered hother.pool, h.isOpen_eq,
    hview.fits_eq, hview.filtered_eq]

/-- Gates that agree on the path of a URL reduce the URL to the same one. -/
theorem fst_reduceUrl_eq {url : String} (h : gate.AgreesOn other (Url.split url).path)
    (hsound : gate.Sound) (hother : other.Sound) (keepFragment : Bool) :
    (gate.reduceUrl keepFragment url).1 = (other.reduceUrl keepFragment url).1 := by
  rw [fst_reduceUrl hsound.pool, fst_reduceUrl hother.pool]
  unfold remainder
  rw [h.isOpen_eq, h.maxUrlLength_eq, (h.view hsound hother).filtered_eq]

/-- Gates that agree on the path of a question give the same answer. -/
theorem fst_ask_eq {question : Question} (h : gate.AgreesOn other question.path)
    (hsound : gate.Sound) (hother : other.Sound) :
    (gate.ask question).1 = (other.ask question).1 := by
  cases question with
  | acceptsUrl url => exact congrArg Answer.verdict (h.fst_acceptsUrl_eq hsound hother)
  | acceptsQuery path query =>
    exact congrArg Answer.verdict (h.fst_acceptsQuery_eq hsound hother query)
  | acceptsBytes path query =>
    exact congrArg Answer.verdict (h.fst_acceptsBytes_eq hsound hother query)
  | acceptsParam path name value =>
    exact congrArg Answer.verdict (h.fst_acceptsParam_eq hsound hother name value)
  | filterUrl url => exact congrArg Answer.text (h.fst_reduceUrl_eq hsound hother true)
  | filterQuery path query =>
    exact congrArg Answer.text (h.fst_filterQuery_eq hsound hother query)
  | canonicalUrl url => exact congrArg Answer.text (h.fst_reduceUrl_eq hsound hother false)
  | inspectKept kept path name =>
    have hanswer := (fst_inspectKept gate kept path name).trans
      (fst_inspectKept other kept path name).symm
    exact congrArg Answer.inspection hanswer

end AgreesOn

/-! ## Gates that have answered other questions -/

/-- Questions that were answered before do not matter to what a gate agrees with. -/
theorem AgreesOn.of_alike {earlier otherEarlier : Gate} (h : earlier.AgreesOn otherEarlier path)
    (hlike : Alike earlier gate) (hother : Alike otherEarlier other) :
    gate.AgreesOn other path := by
  refine ⟨?_, ?_, ?_, ?_, ?_⟩
  · rw [hlike.same Gate.isOpen fun _ => rfl, hother.same Gate.isOpen fun _ => rfl, h.isOpen_eq]
  · rw [hlike.same Gate.limits fun _ => rfl, hother.same Gate.limits fun _ => rfl,
      h.maxUrlLength_eq]
  · rw [hlike.same Gate.limits fun _ => rfl, hother.same Gate.limits fun _ => rfl,
      h.maxParams_eq]
  · rw [hlike.same Gate.callback fun _ => rfl, hother.same Gate.callback fun _ => rfl,
      h.callback_eq]
  · rw [hlike.same Gate.declared fun _ => rfl, hother.same Gate.declared fun _ => rfl,
      h.governingRule_eq]

/-- Gates that agree on the path of a question give the same answer after any other questions. -/
theorem AgreesOn.fst_ask_afterAsking {question : Question}
    (h : gate.AgreesOn other question.path) (hsound : gate.Sound) (hother : other.Sound)
    (questions otherQuestions : List Question) :
    ((gate.afterAsking questions).ask question).1 =
      ((other.afterAsking otherQuestions).ask question).1 := by
  have hlike := gate.alike_afterAsking questions
  have hotherLike := other.alike_afterAsking otherQuestions
  exact (h.of_alike hlike hotherLike).fst_ask_eq (hsound.of_alike hlike)
    (hother.of_alike hotherLike)

/-- Two gates after any sessions that are both open or both closed, with the same rules, the same
callback and the same limits for queries, give the same answer to every question, whatever questions
each of them has answered before and however many pattern expressions and buffers each of them may
keep. After any questions the pool of a gate hands out an empty buffer and has no more idle buffers
than it may keep. -/
theorem questions_leave_no_trace (limits otherLimits : Limits) (plugins otherPlugins : List Plugin)
    (operations otherOperations : List Operation) (questions otherQuestions : List Question) :
    let gate := (new limits plugins).after operations
    let other := (new otherLimits otherPlugins).after otherOperations
    (gate.isOpen = other.isOpen → gate.declared = other.declared →
      gate.callback = other.callback → limits.maxUrlLength = otherLimits.maxUrlLength →
      limits.maxParams = otherLimits.maxParams →
      ∀ question : Question, ((gate.afterAsking questions).ask question).1 =
        ((other.afterAsking otherQuestions).ask question).1) ∧
    (gate.afterAsking questions).pool.take.1.text = "" ∧
    (gate.afterAsking questions).pool.idle.length ≤ limits.poolSize := by
  intro gate other
  have hsound : gate.Sound := (sound_new limits plugins).after operations
  have hother : other.Sound := (sound_new otherLimits otherPlugins).after otherOperations
  have hlimits : gate.limits = limits := (new limits plugins).limits_after operations
  have hotherLimits : other.limits = otherLimits :=
    (new otherLimits otherPlugins).limits_after otherOperations
  have hlike := gate.alike_afterAsking questions
  have hlater := hsound.of_alike hlike
  refine ⟨?_, hlater.pool.text_take, ?_⟩
  · intro hopen hdeclared hcallback hlength hparams question
    rw [← hlimits, ← hotherLimits] at hlength hparams
    have hagrees : gate.AgreesOn other question.path :=
      ⟨hopen, hlength, hparams, hcallback, by rw [hdeclared]⟩
    exact hagrees.fst_ask_afterAsking hsound hother questions otherQuestions
  · rw [← hlimits, ← hlike.same Gate.limits fun _ => rfl]
    exact hlater.pool.length_le

/-- A gate that is asked to filter a URL answers with the filtered URL. -/
theorem fst_ask_filterUrl (gate : Gate) (url : String) :
    (gate.ask (.filterUrl url)).1 = .text (gate.filterUrl url).1 :=
  rfl

/-- A session that declares a parameter for paths with a wildcard inside. -/
def declaringPage : List Operation :=
  [.change (.addScope "/shops/*/items" [⟨"page", .range 1 9, false⟩])]

/-- A gate that may keep neither an expression nor a buffer answers, after another question, as one
that may keep many and was not asked before. -/
theorem questions_leave_no_trace_page :
    let gate := (new { matcherCacheSize := 0, poolSize := 0 } []).after declaringPage
    let other := (new {} []).after (.change .clear :: declaringPage)
    (gate.isOpen = other.isOpen ∧ gate.declared = other.declared ∧
      gate.callback = other.callback) ∧
    ((gate.afterAsking [.filterUrl "/shops/1/items?page=0&page=7"]).filterUrl
      "/shops/2/items?page=3&sort").1 = "/shops/2/items?page=3" := by
  intro gate other
  have hopen : gate.isOpen = other.isOpen := by rfl
  have hdeclared : gate.declared = other.declared := by rfl
  have hcallback : gate.callback = other.callback := by rfl
  obtain ⟨hanswers, _⟩ := questions_leave_no_trace { matcherCacheSize := 0, poolSize := 0 } {} [] []
    declaringPage (.change .clear :: declaringPage) [.filterUrl "/shops/1/items?page=0&page=7"] []
  have hanswer := hanswers hopen hdeclared hcallback rfl rfl
    (.filterUrl "/shops/2/items?page=3&sort")
  rw [fst_ask_filterUrl, fst_ask_filterUrl] at hanswer
  have hsame : ((gate.afterAsking [.filterUrl "/shops/1/items?page=0&page=7"]).filterUrl
      "/shops/2/items?page=3&sort").1 = (other.filterUrl "/shops/2/items?page=3&sort").1 :=
    Answer.text.inj hanswer
  have hsound : other.Sound := (sound_new {} []).after (.change .clear :: declaringPage)
  have hother : (other.filterUrl "/shops/2/items?page=3&sort").1 = "/shops/2/items?page=3" := by
    rw [filterUrl, fst_reduceUrl hsound.pool]
    decide +kernel
  exact ⟨⟨hopen, hdeclared, hcallback⟩, hsame.trans hother⟩

end Gate

end QueryGate
