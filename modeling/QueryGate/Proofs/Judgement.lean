import QueryGate.Proofs.Counting
import QueryGate.Proofs.Lookup
import QueryGate.Proofs.Query

/-!
# Judging and filtering agree

Judging a query and filtering it are two passes over its segments with the same shortcuts. Without
kept expressions each of them is a plain function of the path and the query. What filtering leaves
of a query is accepted and is left as it is when it is filtered again, and a query is accepted
exactly when filtering keeps all of its segments.
-/

namespace QueryGate.View

open QueryGate.Query

variable (view : View) (path : String)

/-! ## Judgements without kept expressions -/

/-- Whether a segment can be decoded and its parameter is accepted by a rule, computed without kept
expressions. -/
def permitted (segment : Segment) : Bool :=
  match decode? segment.key, decode? segment.value with
  | some name, some value =>
    (view.rules.ruleNamed (Path.forMatching path) name).any fun rule =>
      rule.accepts view.callback value
  | _, _ => false

/-- Whether no rule is declared for the path at all. -/
def barren : Bool :=
  (view.rules.coverageAt (Path.forMatching path)).combined.isEmpty

/-- Whether every parameter is accepted on the path. -/
def boundless : Bool :=
  view.rules.acceptsAll (view.rules.coverageAt (Path.forMatching path))

/-- Whether a query has no more segments than allowed. -/
def holds (query : String) : Bool :=
  decide ((segments query).length ≤ view.limits.maxParams)

/-- Whether a query without fragment is accepted, computed without kept expressions. -/
def accepted (query : String) : Bool :=
  if query.isEmpty then true
  else if !view.fits path query.utf8ByteSize then false
  else if view.barren path then false
  else if view.boundless path then true
  else view.holds query && (segments query).all (view.permitted path)

/-- What filtering selects of a query without fragment, computed without kept expressions. -/
def selected (query : String) : Selection :=
  if query.isEmpty || !view.fits path query.utf8ByteSize then .nothing
  else if view.barren path then .nothing
  else if view.boundless path then .everything
  else
    .segments (((segments query).take view.limits.maxParams).filter (view.permitted path))
      (view.holds query)

/-- What a selection of a query comes to. -/
def Selection.text (query : String) : Selection → String
  | .nothing => ""
  | .everything => query
  | .segments kept complete => if complete then joined kept else ""

/-- What filtering leaves of a query without fragment. -/
def filtered (query : String) : String :=
  (view.selected path query).text query

variable {view : View} {path query : String}

/-- Kept expressions do not change whether a segment is permitted. -/
theorem yields_permits (view : View) (path : String) (segment : Segment) :
    Lookup.Yields
      (view.permits (view.rules.coverageAt (Path.forMatching path)) (Path.forMatching path) segment)
      (view.permitted path segment) := by
  unfold permits permitted
  cases decode? segment.key with
  | none => exact .pure false
  | some name =>
    cases decode? segment.value with
    | none => exact .pure false
    | some value =>
      exact (view.rules.yields_ruleFor (Path.forMatching path) name).map
        fun rule => rule.any fun rule => rule.accepts view.callback value

/-- Looking at the first segments only loses nothing where there are no more than these. -/
theorem take_segments (h : view.holds query = true) :
    (segments query).take view.limits.maxParams = segments query :=
  List.take_of_length_le (of_decide_eq_true h)

/-- Kept expressions do not change whether there are no more segments than allowed and all of them
are permitted. -/
theorem yields_allCounted {α : Type} {limit : Nat} {p : α → Lookup Bool} {b : α → Bool} {xs : List α}
    (hp : ∀ x ∈ xs, Lookup.Yields (p x) (b x)) :
    Lookup.Yields (allCounted limit p 0 xs) (decide (xs.length ≤ limit) && xs.all b) := by
  have hall : Lookup.Yields ((xs.take limit).allM p) ((xs.take limit).all b) :=
    .allM fun x hx => hp x (List.mem_of_mem_take hx)
  have hsame : ((xs.take limit).all b && decide (xs.length ≤ limit)) =
      (decide (xs.length ≤ limit) && xs.all b) := by
    by_cases hfew : xs.length ≤ limit
    · rw [List.take_of_length_le hfew, Bool.and_comm]
    · rw [decide_eq_false hfew, Bool.and_false, Bool.false_and]
  rw [allCounted_eq_allWithin (Nat.zero_add limit).symm, ← hsame]
  exact hall.map fun accepted => accepted && decide (xs.length ≤ limit)

/-- Kept expressions do not change whether a query is accepted. -/
theorem yields_acceptsQuery (view : View) (path query : String) :
    Lookup.Yields (view.acceptsQuery path query) (view.accepted path query) := by
  unfold acceptsQuery accepted
  split
  · exact .pure true
  split
  · exact .pure false
  refine (view.rules.yields_coverage (Path.forMatching path)).bind ?_
  unfold barren boundless
  split
  · exact .pure false
  split
  · exact .pure true
  · exact yields_allCounted fun segment _ => view.yields_permits path segment

/-- How much of a query without fragment has to be looked at, computed without kept expressions. -/
def extentAt (view : View) (path query : String) : Extent :=
  if query.isEmpty || !view.fits path query.utf8ByteSize then .nothing
  else if view.barren path then .nothing
  else if view.boundless path then .everything
  else .segments (view.rules.coverageAt (Path.forMatching path)) (Path.forMatching path)

/-- Kept expressions do not change how much of a query has to be looked at. -/
theorem yields_extent (view : View) (path query : String) :
    Lookup.Yields (view.extent path query) (view.extentAt path query) := by
  unfold extent extentAt
  split
  · exact .pure Extent.nothing
  refine (view.rules.yields_coverage (Path.forMatching path)).bind ?_
  unfold barren boundless
  split
  · exact .pure Extent.nothing
  split
  · exact .pure Extent.everything
  · exact .pure _

/-- Kept expressions do not change what filtering selects. -/
theorem yields_select (view : View) (path query : String) :
    Lookup.Yields (view.select path query) (view.selected path query) := by
  refine (view.yields_extent path query).bind ?_
  unfold extentAt selected
  by_cases hnothing : (query.isEmpty || !view.fits path query.utf8ByteSize) = true
  · rw [if_pos hnothing, if_pos hnothing]
    exact .pure Selection.nothing
  rw [if_neg hnothing, if_neg hnothing]
  by_cases hbarren : view.barren path = true
  · rw [if_pos hbarren, if_pos hbarren]
    exact .pure Selection.nothing
  rw [if_neg hbarren, if_neg hbarren]
  by_cases hboundless : view.boundless path = true
  · rw [if_pos hboundless, if_pos hboundless]
    exact .pure Selection.everything
  rw [if_neg hboundless, if_neg hboundless]
  have hkept : Lookup.Yields
      (((segments query).take view.limits.maxParams).filterM
        (view.permits (view.rules.coverageAt (Path.forMatching path)) (Path.forMatching path)))
      (((segments query).take view.limits.maxParams).filter (view.permitted path)) :=
    .filterM fun segment _ => view.yields_permits path segment
  exact hkept.map fun kept => Selection.segments kept (view.holds query)

/-- Selected segments are segments of the query. -/
theorem proper_of_mem_selected {kept : List Segment} {complete : Bool}
    (h : view.selected path query = .segments kept complete) :
    ∀ segment ∈ kept, segment.Proper := by
  unfold selected at h
  split at h
  · cases h
  split at h
  · cases h
  split at h
  · cases h
  · cases h
    intro segment hmem
    exact proper_of_mem_segments (List.mem_of_mem_take (List.mem_filter.mp hmem).1)

/-! ## What filtering comes to -/

/-- The empty query is accepted. -/
theorem accepted_empty : view.accepted path "" = true := rfl

/-- The empty query is filtered to itself. -/
theorem filtered_empty : view.filtered path "" = "" := rfl

/-- Where every parameter is accepted, a query that fits is. -/
theorem accepted_of_boundless (hfits : view.fits path query.utf8ByteSize = true)
    (hbarren : view.barren path = false) (hboundless : view.boundless path = true) :
    view.accepted path query = true := by
  unfold accepted
  rw [hfits, hbarren, hboundless]
  simp

/-- Where the segments are looked at, a query is accepted if all of them are permitted. -/
theorem accepted_of_bounded (hfits : view.fits path query.utf8ByteSize = true)
    (hbarren : view.barren path = false) (hboundless : view.boundless path = false)
    (hholds : view.holds query = true) :
    view.accepted path query = (segments query).all (view.permitted path) := by
  unfold accepted
  rw [hfits, hbarren, hboundless, hholds]
  by_cases hempty : query = ""
  · subst hempty
    rfl
  · simp [hempty]

/-- Where every parameter is accepted, a query that fits is left as it is. -/
theorem filtered_of_boundless (hfits : view.fits path query.utf8ByteSize = true)
    (hbarren : view.barren path = false) (hboundless : view.boundless path = true) :
    view.filtered path query = query := by
  unfold filtered selected
  rw [hfits, hbarren, hboundless]
  by_cases hempty : query = ""
  · subst hempty
    rfl
  · simp [hempty, Selection.text]

/-- Where the segments are looked at, the permitted ones are left, joined. -/
theorem filtered_of_bounded (hfits : view.fits path query.utf8ByteSize = true)
    (hbarren : view.barren path = false) (hboundless : view.boundless path = false)
    (hholds : view.holds query = true) :
    view.filtered path query = joined ((segments query).filter (view.permitted path)) := by
  unfold filtered selected
  rw [hfits, hbarren, hboundless, hholds, take_segments hholds]
  by_cases hempty : query = ""
  · subst hempty
    rfl
  · simp [hempty, Selection.text]

variable (view path query) in
/-- The ways in which a query can be filtered. -/
inductive Outcome : String → Prop where
  /-- Nothing is left, and the query was empty or is refused. -/
  | dropped (hrefused : query = "" ∨ view.accepted path query = false) : Outcome ""
  /-- Everything is left on a path that accepts every parameter. -/
  | whole (hfits : view.fits path query.utf8ByteSize = true) (hbarren : view.barren path = false)
      (hboundless : view.boundless path = true) : Outcome query
  /-- The permitted segments are left, joined. -/
  | picked (hfits : view.fits path query.utf8ByteSize = true) (hbarren : view.barren path = false)
      (hboundless : view.boundless path = false) (hholds : view.holds query = true) :
      Outcome (joined ((segments query).filter (view.permitted path)))

/-- A query is filtered in one of these ways. -/
theorem outcome_filtered (view : View) (path query : String) :
    Outcome view path query (view.filtered path query) := by
  by_cases hempty : query = ""
  · subst hempty
    exact .dropped (.inl rfl)
  cases hfits : view.fits path query.utf8ByteSize with
  | false =>
    have hnothing : view.filtered path query = "" := by
      simp [filtered, selected, hfits, Selection.text]
    rw [hnothing]
    exact .dropped (.inr (by simp [accepted, hempty, hfits]))
  | true =>
    cases hbarren : view.barren path with
    | true =>
      have hnothing : view.filtered path query = "" := by
        simp [filtered, selected, hempty, hfits, hbarren, Selection.text]
      rw [hnothing]
      exact .dropped (.inr (by simp [accepted, hempty, hfits, hbarren]))
    | false =>
      cases hboundless : view.boundless path with
      | true =>
        rw [filtered_of_boundless hfits hbarren hboundless]
        exact .whole hfits hbarren hboundless
      | false =>
        cases hholds : view.holds query with
        | true =>
          rw [filtered_of_bounded hfits hbarren hboundless hholds]
          exact .picked hfits hbarren hboundless hholds
        | false =>
          have hnothing : view.filtered path query = "" := by
            simp [filtered, selected, hempty, hfits, hbarren, hboundless, hholds, Selection.text]
          rw [hnothing]
          exact .dropped (.inr (by simp [accepted, hempty, hfits, hbarren, hboundless, hholds]))

/-- A query that is shorter than one that fits does so too. -/
theorem fits_of_sublist {part : String} (h : part.toList.Sublist query.toList)
    (hfits : view.fits path query.utf8ByteSize = true) :
    view.fits path part.utf8ByteSize = true := by
  have hle := Text.utf8ByteSize_le_of_sublist h
  have hall := of_decide_eq_true hfits
  exact decide_eq_true (by omega)

/-- Filtering takes only characters away. -/
theorem filtered_sublist (view : View) (path query : String) :
    (view.filtered path query).toList.Sublist query.toList := by
  have houtcome := view.outcome_filtered path query
  generalize view.filtered path query = left at houtcome ⊢
  cases houtcome with
  | dropped hrefused => exact List.nil_sublist query.toList
  | whole hfits hbarren hboundless => exact .refl query.toList
  | picked hfits hbarren hboundless hholds => exact joined_sublist List.filter_sublist

/-- The permitted segments of a query, joined, have the permitted segments again. -/
theorem segments_joined_permitted :
    segments (joined ((segments query).filter (view.permitted path))) =
      (segments query).filter (view.permitted path) := by
  apply segments_joined
  intro segment hmem
  exact proper_of_mem_segments (List.mem_filter.mp hmem).1

/-- What filtering leaves of a query fits where the query does. -/
theorem fits_joined_permitted (hfits : view.fits path query.utf8ByteSize = true) :
    view.fits path (joined ((segments query).filter (view.permitted path))).utf8ByteSize = true :=
  fits_of_sublist (joined_sublist List.filter_sublist) hfits

/-- What filtering leaves of a query has no more segments than allowed where the query has not. -/
theorem holds_joined_permitted (hholds : view.holds query = true) :
    view.holds (joined ((segments query).filter (view.permitted path))) = true := by
  have hle := List.length_filter_le (view.permitted path) (segments query)
  have hall := of_decide_eq_true hholds
  unfold holds
  rw [segments_joined_permitted]
  exact decide_eq_true (by omega)

/-- What filtering leaves of a query is accepted. -/
theorem accepted_filtered (view : View) (path query : String) :
    view.accepted path (view.filtered path query) = true := by
  have houtcome := view.outcome_filtered path query
  generalize view.filtered path query = left at houtcome ⊢
  cases houtcome with
  | dropped hrefused => exact accepted_empty
  | whole hfits hbarren hboundless => exact accepted_of_boundless hfits hbarren hboundless
  | picked hfits hbarren hboundless hholds =>
    have hpart := fits_joined_permitted hfits
    rw [accepted_of_bounded hpart hbarren hboundless (holds_joined_permitted hholds),
      segments_joined_permitted, List.all_eq_true]
    intro segment hmem
    exact (List.mem_filter.mp hmem).2

/-- An accepted query is left with all of its segments. -/
theorem segments_filtered_of_accepted (h : view.accepted path query = true) :
    segments (view.filtered path query) = segments query := by
  have houtcome := view.outcome_filtered path query
  generalize view.filtered path query = left at houtcome ⊢
  cases houtcome with
  | dropped hrefused =>
    rcases hrefused with rfl | hno
    · rfl
    · rw [h] at hno
      cases hno
  | whole hfits hbarren hboundless => rfl
  | picked hfits hbarren hboundless hholds =>
    rw [accepted_of_bounded hfits hbarren hboundless hholds, List.all_eq_true] at h
    rw [segments_joined_permitted, List.filter_eq_self]
    exact h

/-- What filtering leaves of a query is left as it is when it is filtered again. -/
theorem filtered_filtered (view : View) (path query : String) :
    view.filtered path (view.filtered path query) = view.filtered path query := by
  have houtcome := view.outcome_filtered path query
  generalize view.filtered path query = left at houtcome ⊢
  cases houtcome with
  | dropped hrefused => exact filtered_empty
  | whole hfits hbarren hboundless => exact filtered_of_boundless hfits hbarren hboundless
  | picked hfits hbarren hboundless hholds =>
    have hpart := fits_joined_permitted hfits
    rw [filtered_of_bounded hpart hbarren hboundless (holds_joined_permitted hholds),
      segments_joined_permitted, List.filter_filter]
    simp

/-- A query with segments is accepted exactly when filtering leaves all of them. -/
theorem accepted_iff_segments_filtered (hsegments : segments query ≠ []) :
    view.accepted path query = true ↔
      segments (view.filtered path query) = segments query := by
  refine ⟨segments_filtered_of_accepted, ?_⟩
  intro hsame
  have houtcome := view.outcome_filtered path query
  generalize view.filtered path query = left at houtcome hsame
  cases houtcome with
  | dropped hrefused => exact absurd hsame.symm hsegments
  | whole hfits hbarren hboundless => exact accepted_of_boundless hfits hbarren hboundless
  | picked hfits hbarren hboundless hholds =>
    rw [segments_joined_permitted, List.filter_eq_self] at hsame
    rw [accepted_of_bounded hfits hbarren hboundless hholds, List.all_eq_true]
    exact hsame

end QueryGate.View
