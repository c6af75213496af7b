import QueryGate.Proofs.Judgement
import QueryGate.Proofs.Session

/-!
# Filtered URLs and queries

At a gate after any session, open or closed, reducing a URL gives the text of its remaining parts,
whatever the gate keeps ready. Reduced URLs stay as they are when they are reduced again, and an
open gate accepts them unless they are too long. An open gate accepts a query exactly when filtering
keeps all of its segments.
-/

namespace QueryGate.Gate

open QueryGate.Query

/-! ## Answers without what is kept ready -/

variable {gate later : Gate} {path query : String} {size : Nat}

/-- Segments pushed to a buffer of the pool are joined. -/
theorem fst_assemble (hpool : gate.pool.Fits size) (query : String) {kept : List Segment}
    (hkept : ∀ segment ∈ kept, segment.Proper) (complete : Bool) :
    (gate.assemble query (.segments kept complete)).1 =
      (View.Selection.segments kept complete).text query := by
  have hbuffer := Buffer.text_foldl_pushSegment_of_empty hpool.text_take hkept
  exact congrArg (fun text => if complete then text else "") hbuffer

/-- What filtering a query answers. -/
theorem fst_filterParams (hpool : gate.pool.Fits size) (path query : String) :
    (gate.filterParams path query).1 = gate.view.filtered path query := by
  have hselect : (gate.filterParams path query).1 =
      ((gate.lookup (gate.view.select path query)).2.assemble query
        (gate.view.selected path query)).1 := by
    rw [← gate.view.yields_select path query gate.globs, filterParams_eq]
    rfl
  rw [hselect]
  unfold View.filtered
  cases hselected : gate.view.selected path query with
  | nothing => rfl
  | everything => rfl
  | segments kept complete =>
    exact fst_assemble hpool query (View.proper_of_mem_selected hselected) complete

/-- Whether a URL is accepted. -/
theorem fst_acceptsUrl (gate : Gate) (url : String) :
    (gate.acceptsUrl url).1 = (gate.isOpen &&
      decide (url.utf8ByteSize ≤ gate.limits.maxUrlLength) &&
      (Url.split url).query.all (gate.view.accepted (Url.split url).path)) := by
  unfold acceptsUrl
  dsimp only
  cases hopen : gate.isOpen with
  | false => rfl
  | true =>
    by_cases hlong : gate.limits.maxUrlLength < url.utf8ByteSize
    · rw [if_pos (by simpa using hlong), decide_eq_false (by omega)]
      rfl
    rw [if_neg (by simpa using hlong), decide_eq_true (by omega)]
    cases (Url.split url).query with
    | none => rfl
    | some query => exact gate.view.yields_acceptsQuery (Url.split url).path query gate.globs

/-! ## The remaining parts of a URL -/

/-- The parts that remain of a URL when it is reduced. -/
def remainder (gate : Gate) (keepFragment : Bool) (parts : Url) : Url :=
  match parts.query with
  | none => parts
  | some query =>
    if !gate.isOpen || gate.limits.maxUrlLength < parts.text.utf8ByteSize then
      ⟨parts.path, none, none⟩
    else
      { path := parts.path
        query :=
          if gate.view.filtered parts.path query = "" then none
          else some (gate.view.filtered parts.path query)
        fragment := if keepFragment then parts.fragment else none }

/-- A URL is reduced to its remaining parts. -/
theorem fst_reduceUrl (hpool : gate.pool.Fits size) (keepFragment : Bool) (url : String) :
    (gate.reduceUrl keepFragment url).1 = (gate.remainder keepFragment (Url.split url)).text := by
  unfold reduceUrl remainder
  dsimp only
  rw [Url.text_split]
  cases (Url.split url).query with
  | none => exact (Url.text_split url).symm
  | some query =>
    dsimp only
    split
    · exact Url.text_path.symm
    rw [fst_filterParams hpool]
    rw [← String.toList_inj]
    by_cases hempty : gate.view.filtered (Url.split url).path query = ""
    · cases keepFragment <;> simp [hempty, Url.text, Url.visible]
    · cases keepFragment <;> simp [hempty, Url.text, Url.visible]

/-- The ways in which parts remain of a URL. -/
inductive Remains (gate : Gate) (keepFragment : Bool) (parts : Url) : Url → Prop where
  /-- A URL without query stays as it is. -/
  | untouched (hquery : parts.query = none) : Remains gate keepFragment parts parts
  /-- The whole query goes. -/
  | stripped (fragment : Option String)
      (hfragment : fragment = none ∨ fragment = parts.fragment) :
      Remains gate keepFragment parts ⟨parts.path, none, fragment⟩
  /-- An open gate leaves some of the query of a URL that is not too long. -/
  | reduced (query : String) (hquery : parts.query = some query) (hopen : gate.isOpen = true)
      (hfits : parts.text.utf8ByteSize ≤ gate.limits.maxUrlLength)
      (hleft : gate.view.filtered parts.path query ≠ "") :
      Remains gate keepFragment parts
        ⟨parts.path, some (gate.view.filtered parts.path query),
          if keepFragment then parts.fragment else none⟩

/-- Parts remain of a URL in one of these ways. -/
theorem remains_remainder (gate : Gate) (keepFragment : Bool) (parts : Url) :
    Remains gate keepFragment parts (gate.remainder keepFragment parts) := by
  unfold remainder
  cases hquery : parts.query with
  | none => exact .untouched hquery
  | some query =>
    dsimp only
    by_cases hjudged : (!gate.isOpen || gate.limits.maxUrlLength < parts.text.utf8ByteSize) = true
    · rw [if_pos hjudged]
      exact .stripped none (.inl rfl)
    rw [if_neg hjudged]
    by_cases hleft : gate.view.filtered parts.path query = ""
    · rw [if_pos hleft]
      refine .stripped _ ?_
      cases keepFragment with
      | true => exact .inr rfl
      | false => exact .inl rfl
    · rw [if_neg hleft]
      rw [Bool.or_eq_true, not_or, Bool.not_eq_true', Bool.not_eq_false, decide_eq_true_iff,
        Nat.not_lt] at hjudged
      exact .reduced query hquery hjudged.1 hjudged.2 hleft

/-- What remains of a URL are parts as a URL can have them. -/
theorem proper_remainder {parts : Url} (h : parts.Proper) (keepFragment : Bool) :
    (gate.remainder keepFragment parts).Proper := by
  have hremains := gate.remains_remainder keepFragment parts
  generalize gate.remainder keepFragment parts = left at hremains ⊢
  cases hremains with
  | untouched hquery => exact h
  | stripped fragment hfragment =>
    refine ⟨h.path_question, h.path_hash, fun _ hq => (nomatch hq), ?_⟩
    rintro text rfl
    rcases hfragment with hnone | hsome
    · cases hnone
    · exact h.fragment_hash text hsome.symm
  | reduced query hquery hopen hfits hleft =>
    refine ⟨h.path_question, h.path_hash, ?_, ?_⟩
    · rintro text htext
      cases htext
      intro hhash
      exact h.query_hash query hquery ((gate.view.filtered_sublist parts.path query).mem hhash)
    · cases keepFragment with
      | true => exact h.fragment_hash
      | false => exact fun _ hf => (nomatch hf)

/-- Reducing a URL takes only characters away. -/
theorem text_remainder_sublist (gate : Gate) (keepFragment : Bool) (parts : Url) :
    (gate.remainder keepFragment parts).text.toList.Sublist parts.text.toList := by
  have hremains := gate.remains_remainder keepFragment parts
  generalize gate.remainder keepFragment parts = left at hremains ⊢
  cases hremains with
  | untouched hquery => exact .refl _
  | stripped fragment hfragment =>
    exact Url.text_sublist (List.Sublist.refl _ |>.trans parts.path_sublist_visible) hfragment
  | reduced query hquery hopen hfits hleft =>
    apply Url.text_sublist
    · unfold Url.visible
      rw [hquery]
      exact (List.Sublist.refl _).append
        ((gate.view.filtered_sublist parts.path query).cons_cons '?')
    · cases keepFragment with
      | true => exact .inr rfl
      | false => exact .inl rfl

/-- The remaining parts stay as they are when a URL is reduced again, unless its fragment was kept
and is now removed. -/
theorem remainder_remainder {keepFragment keepAgain : Bool}
    (hkeep : keepFragment = true → keepAgain = true) (gate : Gate) (parts : Url) :
    gate.remainder keepAgain (gate.remainder keepFragment parts) =
      gate.remainder keepFragment parts := by
  have hsublist := gate.text_remainder_sublist keepFragment parts
  have hremains := gate.remains_remainder keepFragment parts
  generalize gate.remainder keepFragment parts = left at hremains hsublist ⊢
  cases hremains with
  | untouched hquery =>
    unfold remainder
    rw [hquery]
  | stripped fragment hfragment => rfl
  | reduced query hquery hopen hfits hleft =>
    have hshort := Nat.le_trans (Text.utf8ByteSize_le_of_sublist hsublist) hfits
    unfold remainder
    dsimp only
    rw [hopen, if_neg (by simpa using hshort), View.filtered_filtered, if_neg hleft]
    cases keepFragment with
    | true => rw [hkeep rfl]; rfl
    | false => cases keepAgain <;> rfl

/-- What remains of a query is accepted. -/
theorem accepted_remainder (gate : Gate) (keepFragment : Bool) (parts : Url) :
    (gate.remainder keepFragment parts).query.all
      (gate.view.accepted (gate.remainder keepFragment parts).path) = true := by
  have hremains := gate.remains_remainder keepFragment parts
  generalize gate.remainder keepFragment parts = left at hremains ⊢
  cases hremains with
  | untouched hquery =>
    rw [hquery]
    rfl
  | stripped fragment hfragment => rfl
  | reduced query hquery hopen hfits hleft =>
    exact gate.view.accepted_filtered parts.path query

/-! ## Reduced URLs -/

/-- A reduced URL stays as it is when it is reduced again at a like gate, unless its fragment was
kept and is now removed. -/
theorem reduceUrl_reduceUrl (hpool : gate.pool.Fits size) (hlike : Alike gate later)
    {keepFragment keepAgain : Bool} (hkeep : keepFragment = true → keepAgain = true)
    (url : String) :
    (later.reduceUrl keepAgain (gate.reduceUrl keepFragment url).1).1 =
      (gate.reduceUrl keepFragment url).1 := by
  have hproper := gate.proper_remainder (Url.proper_split url) keepFragment
  have hsame : later.remainder keepAgain = gate.remainder keepAgain :=
    hlike.same (fun gate => gate.remainder keepAgain) fun _ => rfl
  rw [fst_reduceUrl hpool, fst_reduceUrl (hlike.pool hpool), hproper.split_text, hsame,
    remainder_remainder hkeep]

/-- A like gate accepts a reduced URL if it is open and the URL is not too long. -/
theorem acceptsUrl_reduceUrl (hpool : gate.pool.Fits size) (hlike : Alike gate later)
    (keepFragment : Bool) (url : String) :
    (later.acceptsUrl (gate.reduceUrl keepFragment url).1).1 = (gate.isOpen &&
      decide ((gate.reduceUrl keepFragment url).1.utf8ByteSize ≤ gate.limits.maxUrlLength)) := by
  have hproper := gate.proper_remainder (Url.proper_split url) keepFragment
  have hsame : ∀ url, (later.acceptsUrl url).1 = (gate.acceptsUrl url).1 := by
    intro url
    rw [fst_acceptsUrl, fst_acceptsUrl]
    exact hlike.same (fun gate => gate.isOpen &&
      decide (url.utf8ByteSize ≤ gate.limits.maxUrlLength) &&
      (Url.split url).query.all (gate.view.accepted (Url.split url).path)) fun _ => rfl
  rw [hsame, fst_acceptsUrl, fst_reduceUrl hpool, hproper.split_text, accepted_remainder,
    Bool.and_true]

/-- After any session, at an open gate as at a closed one, with any questions between the first
answer and the second: filtering a filtered URL and taking the canonical form of a canonical one
change nothing, and neither does filtering a canonical one; and the gate accepts such a URL exactly
when it is open and the URL is not too long. -/
theorem reduced_urls_settled (limits : Limits) (plugins : List Plugin)
    (operations : List Operation) (questions : List Question) (url : String) :
    let gate := (new limits plugins).after operations
    let later := gate.afterAsking questions
    (later.filterUrl (gate.filterUrl url).1).1 = (gate.filterUrl url).1 ∧
    (later.canonicalUrl (gate.canonicalUrl url).1).1 = (gate.canonicalUrl url).1 ∧
    (later.filterUrl (gate.canonicalUrl url).1).1 = (gate.canonicalUrl url).1 ∧
    (later.acceptsUrl (gate.filterUrl url).1).1 = (gate.isOpen &&
      decide ((gate.filterUrl url).1.utf8ByteSize ≤ limits.maxUrlLength)) ∧
    (later.acceptsUrl (gate.canonicalUrl url).1).1 = (gate.isOpen &&
      decide ((gate.canonicalUrl url).1.utf8ByteSize ≤ limits.maxUrlLength)) := by
  intro gate later
  have hpool := ((sound_new limits plugins).after operations).pool
  have hlimits : gate.limits = limits := (new limits plugins).limits_after operations
  have hlike : Alike gate later := gate.alike_afterAsking questions
  refine ⟨?_, ?_, ?_, ?_, ?_⟩
  · exact reduceUrl_reduceUrl hpool hlike id url
  · exact reduceUrl_reduceUrl hpool hlike id url
  · exact reduceUrl_reduceUrl hpool hlike (fun _ => rfl) url
  · rw [← hlimits]
    exact acceptsUrl_reduceUrl hpool hlike true url
  · rw [← hlimits]
    exact acceptsUrl_reduceUrl hpool hlike false url

/-! ## Filtered queries -/

/-- Whether an open gate accepts a query that fits. -/
theorem fst_acceptsQuery (hopen : gate.isOpen = true)
    (hfits : gate.view.fits path query.utf8ByteSize = true) :
    (gate.acceptsQuery path query).1 = gate.view.accepted path (beforeFragment query) := by
  unfold acceptsQuery
  rw [hopen, hfits]
  by_cases hempty : query = ""
  · subst hempty
    rfl
  · rw [if_neg (by simp), if_neg (by simpa using hempty), if_neg (by simp)]
    exact gate.view.yields_acceptsQuery path (beforeFragment query) gate.globs

/-- What an open gate leaves of a query that fits. -/
theorem fst_filterQuery (hpool : gate.pool.Fits size) (hopen : gate.isOpen = true)
    (hfits : gate.view.fits path query.utf8ByteSize = true) :
    (gate.filterQuery path query).1 = gate.view.filtered path (beforeFragment query) := by
  unfold filterQuery
  rw [hopen, hfits, if_neg (by simp)]
  exact fst_filterParams hpool path (beforeFragment query)

/-- After any session, if the gate is open, with any questions between the two answers: a query that
has segments and is not too long is accepted exactly when filtering it leaves all of its segments.
What follows the first `#` does not count. -/
theorem acceptsQuery_iff_segments_filterQuery (limits : Limits) (plugins : List Plugin)
    (operations : List Operation) (questions : List Question) (path query : String)
    (hopen : ((new limits plugins).after operations).isOpen = true)
    (hfits : path.utf8ByteSize + 1 + query.utf8ByteSize ≤ limits.maxUrlLength)
    (hsegments : segments (beforeFragment query) ≠ []) :
    let gate := (new limits plugins).after operations
    let later := gate.afterAsking questions
    (later.acceptsQuery path query).1 = true ↔
      segments (gate.filterQuery path query).1 = segments (beforeFragment query) := by
  intro gate later
  have hpool := ((sound_new limits plugins).after operations).pool
  have hlimits : gate.limits = limits := (new limits plugins).limits_after operations
  have hlike : Alike gate later := gate.alike_afterAsking questions
  have hview : later.view = gate.view := hlike.same Gate.view fun _ => rfl
  have hlaterOpen : later.isOpen = true := (hlike.same Gate.isOpen fun _ => rfl).trans hopen
  have hgateFits : gate.view.fits path query.utf8ByteSize = true := by
    rw [← hlimits] at hfits
    exact decide_eq_true hfits
  have hlaterFits : later.view.fits path query.utf8ByteSize = true := by
    rw [hview]
    exact hgateFits
  rw [fst_acceptsQuery hlaterOpen hlaterFits, hview, fst_filterQuery hpool hopen hgateFits]
  exact View.accepted_iff_segments_filtered hsegments

/-- A session that declares one parameter. -/
def declaringName : List Operation :=
  [.change (.addRule ⟨"name", .any, false⟩)]

/-- A query with a parameter that is not declared loses it and is not accepted. -/
theorem acceptsQuery_undeclared_age :
    let gate := (new {} []).after declaringName
    gate.isOpen = true ∧ "/".utf8ByteSize + 1 + "name=Ada&age=36#top".utf8ByteSize ≤ 8192 ∧
      segments (beforeFragment "name=Ada&age=36#top") ≠ [] ∧
      ((gate.afterAsking [.filterUrl "/?age"]).acceptsQuery "/" "name=Ada&age=36#top").1 =
        false := by
  intro gate
  have hopen : gate.isOpen = true := by decide +kernel
  have hfits : "/".utf8ByteSize + 1 + "name=Ada&age=36#top".utf8ByteSize ≤ 8192 := by
    decide +kernel
  have hsegments : segments (beforeFragment "name=Ada&age=36#top") ≠ [] := by decide +kernel
  have hagree := acceptsQuery_iff_segments_filterQuery {} [] declaringName [.filterUrl "/?age"]
    "/" "name=Ada&age=36#top" hopen hfits hsegments
  have hdropped : segments (gate.filterQuery "/" "name=Ada&age=36#top").1 ≠
      segments (beforeFragment "name=Ada&age=36#top") := by
    decide +kernel
  refine ⟨hopen, hfits, hsegments, ?_⟩
  exact Bool.eq_false_iff.mpr fun haccepted => hdropped (hagree.mp haccepted)

end QueryGate.Gate
