import QueryGate.Proofs.Filtering
import QueryGate.Proofs.Percent

/-!
# Questions that agree

A URL, a query and a parameter are three things to ask about. A URL is judged like its query on its
path. A query is judged parameter by parameter: unless every parameter is accepted on the path, it
is accepted exactly when each of its segments spells a parameter that is accepted when it is asked
about alone, and filtering keeps exactly these segments. So neither the order of the segments nor
their spelling matters.
-/

namespace QueryGate

open QueryGate.Query

namespace View

/-! ## Parameters without kept expressions -/

/-- Whether a rule for the name of a parameter accepts its value, computed without kept
expressions. -/
def ruled (view : View) (path : String) (param : String × String) : Bool :=
  (view.rules.ruleNamed (Path.forMatching path) param.1).any fun rule =>
    rule.accepts view.callback param.2

/-- Whether a parameter is accepted, computed without kept expressions. -/
def acceptedParam (view : View) (path : String) (param : String × String) : Bool :=
  view.boundless path || view.ruled path param

variable {view : View} {path query : String}

/-- Kept expressions do not change whether a parameter is accepted. -/
theorem yields_acceptsParam (view : View) (path name value : String) :
    Lookup.Yields (view.acceptsParam path name value) (view.acceptedParam path (name, value)) := by
  unfold acceptsParam acceptedParam
  refine (view.rules.yields_coverage (Path.forMatching path)).bind ?_
  unfold boundless
  cases view.rules.acceptsAll (view.rules.coverageAt (Path.forMatching path)) with
  | true => exact .pure true
  | false =>
    exact (view.rules.yields_ruleFor (Path.forMatching path) name).map
      fun rule => rule.any fun rule => rule.accepts view.callback value

/-- Where not every parameter is accepted, a rule has to accept it. -/
theorem acceptedParam_of_bounded (hbounded : view.boundless path = false) :
    view.acceptedParam path = view.ruled path := by
  funext param
  unfold acceptedParam
  rw [hbounded, Bool.false_or]

/-- Where no rule is declared at all, no rule accepts a parameter. -/
theorem ruled_of_barren (hrules : view.rules.Framed) (hbarren : view.barren path = true)
    (param : String × String) : view.ruled path param = false := by
  unfold ruled
  rw [hrules.ruleNamed_of_isEmpty hbarren]
  rfl

/-- A segment is permitted exactly when a rule accepts the parameter that it spells. -/
theorem permitted_eq_ruled (view : View) (path : String) (segment : Segment) :
    view.permitted path segment = segment.param?.any (view.ruled path) := by
  unfold permitted Segment.param? ruled
  cases decode? segment.key with
  | none => rfl
  | some name => cases decode? segment.value <;> rfl

/-- Where no rule is declared at all, no segment is permitted. -/
theorem permitted_of_barren (hrules : view.rules.Framed) (hbarren : view.barren path = true)
    (segment : Segment) : view.permitted path segment = false := by
  rw [permitted_eq_ruled, funext (ruled_of_barren hrules hbarren)]
  cases segment.param? <;> rfl

/-- A query with segments is accepted exactly when each of them is permitted, if not every parameter
is accepted on the path and the query is neither too long nor has too many segments. -/
theorem accepted_eq_all (hrules : view.rules.Framed)
    (hfits : view.fits path query.utf8ByteSize = true) (hbounded : view.boundless path = false)
    (hholds : view.holds query = true) (hsegments : segments query ≠ []) :
    view.accepted path query = (segments query).all (view.permitted path) := by
  cases hbarren : view.barren path with
  | false => exact accepted_of_bounded hfits hbarren hbounded hholds
  | true =>
    have hempty : query ≠ "" := by
      rintro rfl
      exact hsegments rfl
    obtain ⟨first, rest, hfirst⟩ := List.exists_cons_of_ne_nil hsegments
    rw [hfirst, List.all_cons, permitted_of_barren hrules hbarren, Bool.false_and]
    simp [accepted, hempty, hfits, hbarren]

/-- Filtering such a query keeps the permitted segments. -/
theorem filtered_eq_joined (hrules : view.rules.Framed)
    (hfits : view.fits path query.utf8ByteSize = true) (hbounded : view.boundless path = false)
    (hholds : view.holds query = true) :
    view.filtered path query = joined ((segments query).filter (view.permitted path)) := by
  cases hbarren : view.barren path with
  | false => exact filtered_of_bounded hfits hbarren hbounded hholds
  | true =>
    have hnone : (segments query).filter (view.permitted path) = [] := by
      rw [List.filter_eq_nil_iff]
      intro segment hmem
      rw [permitted_of_barren hrules hbarren]
      exact Bool.false_ne_true
    unfold filtered selected
    rw [hnone, hbarren]
    split <;> rfl

end View

namespace Gate

variable {gate later : Gate} {path query : String}

/-- Whether a parameter is accepted. -/
theorem fst_acceptsParam (gate : Gate) (path name value : String) :
    (gate.acceptsParam path name value).1 =
      (gate.isOpen && gate.view.acceptedParam path (name, value)) := by
  unfold acceptsParam
  cases gate.isOpen with
  | false => rfl
  | true => exact gate.view.yields_acceptsParam path name value gate.globs

/-- The rules in force have masks over their own slots. -/
theorem Sound.framed (h : gate.Sound) : gate.rules.Framed := by
  obtain ⟨_, hrules⟩ := Generation.prepare_eq_ok_iff.mp h.current
  rw [hrules]
  exact Generation.framed_build gate.declared gate.generation

/-! ## URLs and their queries -/

/-- A URL with a query is judged like the query on the path of the URL, at any gate, and the gate
afterwards is the same. A fragment belongs to neither. -/
theorem acceptsUrl_append_query (gate : Gate) {path query : String}
    (hquestion : '?' ∉ path.toList) (hhash : '#' ∉ path.toList) (hquery : query ≠ "") :
    gate.acceptsUrl (path ++ "?" ++ query) = gate.acceptsQuery path query := by
  obtain ⟨hpath, hvisible⟩ := Url.split_append hquestion hhash query
  have hlength : (path ++ "?" ++ query).utf8ByteSize =
      path.utf8ByteSize + 1 + query.utf8ByteSize := by
    rw [String.utf8ByteSize_append, String.utf8ByteSize_append]
    rfl
  have hempty : query.isEmpty = false := by simpa using hquery
  have hfits : gate.view.fits path query.utf8ByteSize =
      !decide (gate.limits.maxUrlLength < path.utf8ByteSize + 1 + query.utf8ByteSize) := by
    rw [← decide_not]
    exact decide_eq_decide.mpr Nat.not_lt.symm
  unfold acceptsUrl acceptsQuery
  dsimp only
  rw [hpath, hvisible, hlength, hempty, hfits, Bool.not_not]
  cases gate.isOpen with
  | false => rfl
  | true =>
    cases decide (gate.limits.maxUrlLength < path.utf8ByteSize + 1 + query.utf8ByteSize) <;> rfl

/-- A session that declares two parameters. -/
def declaringNameAndAge : List Operation :=
  [.change (.addRule ⟨"name", .any, false⟩), .change (.addRule ⟨"age", .range 0 150, false⟩)]

/-- A query may hold a `?` and its fragment another one. -/
theorem acceptsUrl_with_fragment :
    let gate := (new {} []).after declaringNameAndAge
    '?' ∉ "/people".toList ∧ '#' ∉ "/people".toList ∧ "name=Ada?&age=36#top?x" ≠ "" ∧
      (gate.acceptsUrl ("/people" ++ "?" ++ "name=Ada?&age=36#top?x")).1 = true := by
  intro gate
  have hquestion : '?' ∉ "/people".toList := by decide +kernel
  have hhash : '#' ∉ "/people".toList := by decide +kernel
  have hquery : "name=Ada?&age=36#top?x" ≠ "" := by decide
  have haccepted : (gate.acceptsQuery "/people" "name=Ada?&age=36#top?x").1 = true := by
    decide +kernel
  refine ⟨hquestion, hhash, hquery, ?_⟩
  rw [acceptsUrl_append_query gate hquestion hhash hquery]
  exact haccepted

/-! ## Queries and their parameters -/

/-- Whether a segment spells a parameter that is accepted when it is asked about alone. -/
def acceptsSegment (gate : Gate) (path : String) (segment : Segment) : Bool :=
  segment.param?.any fun param => (gate.acceptsParam path param.1 param.2).1

/-- A segment's parameter is accepted when its name and its value can be decoded and the parameter
that they make is accepted. -/
theorem acceptsSegment_iff {segment : Segment} :
    gate.acceptsSegment path segment = true ↔
      ∃ name value, decode? segment.key = some name ∧ decode? segment.value = some value ∧
        (gate.acceptsParam path name value).1 = true := by
  unfold acceptsSegment
  rw [Option.any_eq_true, Prod.exists]
  simp only [Segment.param?_eq_some_iff, and_assoc]

/-- Whether all segments are accepted depends on the parameters that they spell, in any order. -/
theorem all_acceptsSegment_of_perm {these those : List Segment}
    (hperm : (those.map Segment.param?).Perm (these.map Segment.param?)) :
    those.all (gate.acceptsSegment path) = these.all (gate.acceptsSegment path) := by
  have hparam : ∀ segments : List Segment, segments.all (gate.acceptsSegment path) =
      (segments.map Segment.param?).all fun param? =>
        param?.any fun param => (gate.acceptsParam path param.1 param.2).1 := by
    intro segments
    rw [List.all_map]
    rfl
  rw [hparam, hparam, hperm.all_eq]

/-- The part of a query before its fragment fits where the query does. -/
theorem fits_beforeFragment (hfits : gate.view.fits path query.utf8ByteSize = true) :
    gate.view.fits path (beforeFragment query).utf8ByteSize = true := by
  refine View.fits_of_sublist ?_ hfits
  unfold beforeFragment
  rw [String.toList_ofList]
  exact List.takeWhile_sublist _

/-- What has to hold of a gate, a path, and the length and the number of segments of a query, for
the query to be judged by its segments. -/
structure BySegments (gate : Gate) (path : String) (length count : Nat) : Prop where
  /-- The gate is open. -/
  isOpen : gate.isOpen = true
  /-- Not every parameter is accepted on the path. -/
  bounded : gate.view.boundless path = false
  /-- The query is not too long. -/
  fits : gate.view.fits path length = true
  /-- The query has segments. -/
  pos : 0 < count
  /-- The query has no more segments than allowed. -/
  few : count ≤ gate.limits.maxParams

namespace BySegments

variable {length count : Nat}

/-- A like gate judges the same queries by their segments. -/
theorem of_alike (h : gate.BySegments path length count) (hlike : Alike gate later) :
    later.BySegments path length count := by
  have hopen : later.isOpen = gate.isOpen := hlike.same Gate.isOpen fun _ => rfl
  have hview : later.view = gate.view := hlike.same Gate.view fun _ => rfl
  have hlimits : later.limits = gate.limits := hlike.same Gate.limits fun _ => rfl
  refine ⟨hopen.trans h.isOpen, ?_, ?_, h.pos, ?_⟩
  · rw [hview]
    exact h.bounded
  · rw [hview]
    exact h.fits
  · rw [hlimits]
    exact h.few

/-- A rule accepts a parameter when the parameter is accepted. -/
theorem ruled_eq (h : gate.BySegments path length count) (hlike : Alike gate later) :
    later.view.ruled path = fun param => (gate.acceptsParam path param.1 param.2).1 := by
  have hview : later.view = gate.view := hlike.same Gate.view fun _ => rfl
  funext param
  rw [fst_acceptsParam, h.isOpen, Bool.true_and, View.acceptedParam_of_bounded h.bounded, hview]

/-- The segments that are permitted are those with accepted parameters. -/
theorem permitted_eq (h : gate.BySegments path length count) (hlike : Alike gate later) :
    later.view.permitted path = gate.acceptsSegment path := by
  funext segment
  rw [View.permitted_eq_ruled, h.ruled_eq hlike]
  rfl

/-- A query that is judged by its segments is accepted when their parameters are. -/
theorem acceptsQuery_eq_all
    (h : gate.BySegments path query.utf8ByteSize (segments (beforeFragment query)).length)
    (hsound : gate.Sound) (hlike : Alike gate later) :
    (later.acceptsQuery path query).1 =
      (segments (beforeFragment query)).all (gate.acceptsSegment path) := by
  have hlater := h.of_alike hlike
  rw [fst_acceptsQuery hlater.isOpen hlater.fits,
    View.accepted_eq_all (hsound.of_alike hlike).framed (fits_beforeFragment hlater.fits)
      hlater.bounded (decide_eq_true hlater.few) (List.ne_nil_of_length_pos hlater.pos),
    h.permitted_eq hlike]

/-- Filtering such a query leaves the segments with accepted parameters. -/
theorem filterQuery_eq_joined
    (h : gate.BySegments path query.utf8ByteSize (segments (beforeFragment query)).length)
    (hsound : gate.Sound) (hlike : Alike gate later) :
    (later.filterQuery path query).1 =
      joined ((segments (beforeFragment query)).filter (gate.acceptsSegment path)) := by
  have hlater := h.of_alike hlike
  have hlaterSound := hsound.of_alike hlike
  rw [fst_filterQuery hlaterSound.pool hlater.isOpen hlater.fits,
    View.filtered_eq_joined hlaterSound.framed (fits_beforeFragment hlater.fits)
      hlater.bounded (decide_eq_true hlater.few), h.permitted_eq hlike]

/-- Such a query is accepted exactly when the parameter of each segment is. -/
theorem acceptsQuery_iff
    (h : gate.BySegments path query.utf8ByteSize (segments (beforeFragment query)).length)
    (hsound : gate.Sound) (hlike : Alike gate later) :
    (later.acceptsQuery path query).1 = true ↔
      ∀ segment ∈ segments (beforeFragment query), ∃ name value,
        decode? segment.key = some name ∧ decode? segment.value = some value ∧
          (gate.acceptsParam path name value).1 = true := by
  rw [h.acceptsQuery_eq_all hsound hlike, List.all_eq_true]
  exact forall₂_congr fun segment _ => acceptsSegment_iff

/-- A query that spells the same parameters in any order is judged alike, if it is not too long. -/
theorem acceptsQuery_of_perm {other : String}
    (h : gate.BySegments path query.utf8ByteSize (segments (beforeFragment query)).length)
    (hsound : gate.Sound) (hlike : Alike gate later)
    (hfits : gate.view.fits path other.utf8ByteSize = true)
    (hperm : ((segments (beforeFragment other)).map Segment.param?).Perm
      ((segments (beforeFragment query)).map Segment.param?)) :
    (later.acceptsQuery path other).1 = (gate.acceptsQuery path query).1 := by
  have hlength := hperm.length_eq
  rw [List.length_map, List.length_map] at hlength
  have hother : gate.BySegments path other.utf8ByteSize
      (segments (beforeFragment other)).length := by
    rw [hlength]
    exact ⟨h.isOpen, h.bounded, hfits, h.pos, h.few⟩
  rw [hother.acceptsQuery_eq_all hsound hlike, h.acceptsQuery_eq_all hsound (.refl gate),
    all_acceptsSegment_of_perm hperm]

end BySegments

/-- After any session, if the gate is open and does not accept every parameter on the path, with any
questions in between: a query that has segments, but not too many, and is not too long is accepted
exactly when the name and the value of each segment can be decoded and the parameter that they make
is accepted when it is asked about alone; and filtering leaves exactly the segments with such a
parameter, in their order and as they are written. So another query is judged alike if it spells the
same parameters in any order, and in particular if it only writes other bytes as escapes. Empty
segments do not count. -/
theorem acceptsQuery_iff_acceptsParam (limits : Limits) (plugins : List Plugin)
    (operations : List Operation) (questions : List Question) (path query : String)
    (hopen : ((new limits plugins).after operations).isOpen = true)
    (hbounded : ((new limits plugins).after operations).view.boundless path = false)
    (hfits : path.utf8ByteSize + 1 + query.utf8ByteSize ≤ limits.maxUrlLength)
    (hsegments : segments (beforeFragment query) ≠ [])
    (hholds : (segments (beforeFragment query)).length ≤ limits.maxParams) :
    let gate := (new limits plugins).after operations
    let later := gate.afterAsking questions
    ((later.acceptsQuery path query).1 = true ↔
      ∀ segment ∈ segments (beforeFragment query), ∃ name value,
        decode? segment.key = some name ∧ decode? segment.value = some value ∧
          (gate.acceptsParam path name value).1 = true) ∧
    (later.filterQuery path query).1 =
      joined ((segments (beforeFragment query)).filter (gate.acceptsSegment path)) ∧
    ∀ other : String, path.utf8ByteSize + 1 + other.utf8ByteSize ≤ limits.maxUrlLength →
      (((segments (beforeFragment other)).map Segment.param?).Perm
          ((segments (beforeFragment query)).map Segment.param?) →
        (later.acceptsQuery path other).1 = (gate.acceptsQuery path query).1) ∧
      (List.Forall₂ Segment.Respells (segments (beforeFragment other))
          (segments (beforeFragment query)) →
        (later.acceptsQuery path other).1 = (gate.acceptsQuery path query).1) := by
  intro gate later
  have hsound : gate.Sound := (sound_new limits plugins).after operations
  have hlike : Alike gate later := gate.alike_afterAsking questions
  have hlimits : gate.limits = limits := (new limits plugins).limits_after operations
  have hgateFits : ∀ text : String, path.utf8ByteSize + 1 + text.utf8ByteSize ≤
      limits.maxUrlLength → gate.view.fits path text.utf8ByteSize = true := by
    intro text htext
    rw [← hlimits] at htext
    exact decide_eq_true htext
  have hjudged : gate.BySegments path query.utf8ByteSize
      (segments (beforeFragment query)).length := by
    rw [← hlimits] at hholds
    exact ⟨hopen, hbounded, hgateFits query hfits, List.length_pos_of_ne_nil hsegments, hholds⟩
  refine ⟨hjudged.acceptsQuery_iff hsound hlike, hjudged.filterQuery_eq_joined hsound hlike, ?_⟩
  intro other hother
  have hsame := hjudged.acceptsQuery_of_perm hsound hlike (hgateFits other hother)
  refine ⟨hsame, ?_⟩
  intro hrespelled
  exact hsame (by rw [Segment.map_param?_of_respells hrespelled])

/-- A query is accepted that spells the parameters of an accepted one in another way and in another
order. -/
theorem acceptsQuery_reordered_age :
    let gate := (new {} []).after declaringNameAndAge
    (gate.isOpen = true ∧ gate.view.boundless "/" = false ∧
      "/".utf8ByteSize + 1 + "name=Ada&&age=%336#top".utf8ByteSize ≤ 8192 ∧
      segments (beforeFragment "name=Ada&&age=%336#top") ≠ [] ∧
      (segments (beforeFragment "name=Ada&&age=%336#top")).length ≤ 100) ∧
    ((gate.afterAsking [.filterUrl "/?age"]).acceptsQuery "/" "age=36&name=%41da").1 = true := by
  intro gate
  have hopen : gate.isOpen = true := by decide +kernel
  have hbounded : gate.view.boundless "/" = false := by decide +kernel
  have hfits : "/".utf8ByteSize + 1 + "name=Ada&&age=%336#top".utf8ByteSize ≤ 8192 := by
    decide +kernel
  have hsegments : segments (beforeFragment "name=Ada&&age=%336#top") ≠ [] := by decide +kernel
  have hholds : (segments (beforeFragment "name=Ada&&age=%336#top")).length ≤ 100 := by
    decide +kernel
  obtain ⟨_, _, hother⟩ := acceptsQuery_iff_acceptsParam {} [] declaringNameAndAge
    [.filterUrl "/?age"] "/" "name=Ada&&age=%336#top" hopen hbounded hfits hsegments hholds
  have hsame := (hother "age=36&name=%41da" (by decide +kernel)).1 (by decide +kernel)
  have haccepted : (gate.acceptsQuery "/" "name=Ada&&age=%336#top").1 = true := by
    decide +kernel
  exact ⟨⟨hopen, hbounded, hfits, hsegments, hholds⟩, hsame.trans haccepted⟩

end Gate

end QueryGate
