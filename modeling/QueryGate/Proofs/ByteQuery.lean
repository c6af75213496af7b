import QueryGate.Proofs.Agreement
import QueryGate.Proofs.SegmentSpan

/-!
# Byte queries

A byte query is judged at the offsets of its segments, and nothing in it is decoded. Where no byte
of a textual query is written as an escape, its bytes are judged as the query itself. Any byte query
is judged parameter by parameter: unless every parameter is accepted on the path, it is accepted
exactly when the key and the value of each segment are UTF-8 and make a parameter that is accepted
when it is asked about alone.
-/

namespace QueryGate

open QueryGate.Query QueryGate.Text

/-! ## Parameters as they are written -/

/-- The parameter that a segment of a byte query writes: its name and its value, if both are
UTF-8. -/
def Query.ByteSegment.param? (segment : ByteSegment) : Option (String × String) :=
  match ofBytes? segment.key, ofBytes? segment.value with
  | some name, some value => some (name, value)
  | _, _ => none

/-- A segment writes a parameter exactly when its key and its value are the bytes of the parameter's
name and value. -/
theorem Query.ByteSegment.param?_eq_some_iff {segment : ByteSegment} {name value : String} :
    segment.param? = some (name, value) ↔
      bytes name = segment.key ∧ bytes value = segment.value := by
  rw [← ofBytes?_eq_some_iff, ← ofBytes?_eq_some_iff]
  unfold param?
  cases ofBytes? segment.key <;> cases ofBytes? segment.value <;> simp

/-- A segment without `%` writes the parameter that it spells. -/
theorem Query.Segment.param?_toBytes {segment : Segment} (hkey : '%' ∉ segment.key.toList)
    (hvalue : '%' ∉ segment.value.toList) : segment.toBytes.param? = segment.param? := by
  unfold Segment.param? ByteSegment.param? toBytes
  rw [ofBytes?_bytes, ofBytes?_bytes, decode?_of_not_mem hkey, decode?_of_not_mem hvalue]

namespace View

/-! ## Judgements without kept expressions -/

/-- Whether a byte query without fragment is accepted, computed without kept expressions. -/
def acceptedBytes (view : View) (path : String) (query : List UInt8) : Bool :=
  if query.isEmpty then true
  else if view.barren path then false
  else if view.boundless path then true
  else
    decide ((byteSegments query).length ≤ view.limits.maxParams) &&
      (byteSegments query).all fun segment => segment.param?.any (view.ruled path)

variable {view : View} {path : String} {query : List UInt8}

/-- Kept expressions do not change whether a segment of a byte query is permitted. -/
theorem yields_permitsBytes (view : View) (path : String) {span : SegmentSpan}
    (hspan : span ∈ segmentSpans query) :
    Lookup.Yields
      (view.permitsBytes (view.rules.coverageAt (Path.forMatching path)) (Path.forMatching path)
        query span)
      ((span.read query).param?.any (view.ruled path)) := by
  have hslot : view.rules.index.slotOfBytes? query span.start span.keyEnd =
      (ofBytes? (span.key query)).bind view.rules.index.slot? := by
    unfold NameIndex.slotOfBytes?
    rw [slice?_of_mem_segmentSpans hspan]
    rfl
  unfold permitsBytes ByteSegment.param? SegmentSpan.read ruled Generation.ruleNamed
  dsimp only
  rw [hslot]
  cases ofBytes? (span.key query) with
  | none => exact .pure false
  | some name =>
    cases ofBytes? (span.value query) with
    | none =>
      rw [Option.bind_some]
      cases view.rules.index.slot? name <;> exact .pure false
    | some value =>
      rw [Option.bind_some]
      cases hname : view.rules.index.slot? name with
      | none =>
        simp only [Option.any_some, hname]
        exact .pure false
      | some slot =>
        simp only [Option.any_some, hname]
        exact (view.rules.yields_ruleAtSlot (view.rules.coverageAt (Path.forMatching path))
          (Path.forMatching path) slot).map fun rule =>
            rule.any fun rule => rule.accepts view.callback value

/-- Kept expressions do not change whether a byte query is accepted. -/
theorem yields_acceptsBytes (view : View) (path : String) (query : List UInt8) :
    Lookup.Yields (view.acceptsBytes path query) (view.acceptedBytes path query) := by
  unfold acceptsBytes acceptedBytes
  split
  · exact .pure true
  refine (view.rules.yields_coverage (Path.forMatching path)).bind ?_
  unfold barren boundless
  split
  · exact .pure false
  split
  · exact .pure true
  · rw [← read_segmentSpans, List.length_map, List.all_map]
    exact yields_allCounted fun span hspan => view.yields_permitsBytes path hspan

/-- Where nothing is written as an escape, the bytes of a query are accepted when the query is. -/
theorem acceptedBytes_bytes {query : String} (hplain : '%' ∉ query.toList)
    (hfits : view.fits path query.utf8ByteSize = true) :
    view.acceptedBytes path (bytes query) = view.accepted path query := by
  by_cases hempty : query = ""
  · subst hempty
    rfl
  have hbytes : (bytes query).isEmpty = false := by
    rw [List.isEmpty_eq_false_iff]
    exact mt bytes_eq_nil_iff.mp hempty
  have hsegments : (segments query).all ((fun segment : ByteSegment =>
      segment.param?.any (view.ruled path)) ∘ Segment.toBytes) =
        (segments query).all (view.permitted path) := by
    rw [Bool.eq_iff_iff, List.all_eq_true, List.all_eq_true]
    refine forall₂_congr fun segment hmem => ?_
    obtain ⟨hkey, hvalue⟩ := not_mem_of_mem_segments hplain hmem
    rw [permitted_eq_ruled, Function.comp_apply, Segment.param?_toBytes hkey hvalue]
  unfold acceptedBytes accepted holds
  rw [hbytes, hfits, byteSegments_bytes, List.length_map, List.all_map, hsegments]
  simp [hempty]

/-- A byte query with segments is accepted exactly when a rule accepts each of the parameters that
they write, if not every parameter is accepted on the path and there are not too many segments. -/
theorem acceptedBytes_eq_all (hrules : view.rules.Framed) (hbounded : view.boundless path = false)
    (hpos : 0 < (byteSegments query).length)
    (hfew : (byteSegments query).length ≤ view.limits.maxParams) :
    view.acceptedBytes path query =
      (byteSegments query).all fun segment => segment.param?.any (view.ruled path) := by
  have hempty : query.isEmpty = false := by
    rw [List.isEmpty_eq_false_iff]
    rintro rfl
    exact Nat.lt_irrefl 0 hpos
  unfold acceptedBytes
  rw [hempty, hbounded, decide_eq_true hfew]
  cases hbarren : view.barren path with
  | false => simp
  | true =>
    obtain ⟨first, rest, hfirst⟩ := List.exists_cons_of_length_pos hpos
    have hnone : first.param?.any (view.ruled path) = false := by
      rw [funext (ruled_of_barren hrules hbarren)]
      cases first.param? <;> rfl
    rw [hfirst, List.all_cons, hnone]
    simp

end View

namespace Gate

variable {gate later : Gate} {path : String} {query : List UInt8}

/-- Whether a byte query is accepted. -/
theorem fst_acceptsBytes (gate : Gate) (path : String) (query : List UInt8) :
    (gate.acceptsBytes path query).1 = (gate.isOpen &&
      (query.isEmpty || gate.view.fits path query.length) &&
      gate.view.acceptedBytes path (bytesBeforeFragment query)) := by
  unfold acceptsBytes
  cases gate.isOpen with
  | false => rfl
  | true =>
    cases query with
    | nil => rfl
    | cons b query =>
      cases gate.view.fits path (b :: query).length with
      | false => rfl
      | true =>
        exact gate.view.yields_acceptsBytes path (bytesBeforeFragment (b :: query)) gate.globs

/-- Where nothing before the fragment is written as an escape, the bytes of a query are judged as
the query itself, also at a like gate. -/
theorem acceptsBytes_bytes (hlike : Alike gate later) {query : String}
    (hplain : '%' ∉ (beforeFragment query).toList) :
    (later.acceptsBytes path (bytes query)).1 = (gate.acceptsQuery path query).1 := by
  have hsame : later.isOpen = gate.isOpen := hlike.same Gate.isOpen fun _ => rfl
  have hview : later.view = gate.view := hlike.same Gate.view fun _ => rfl
  rw [fst_acceptsBytes, hsame, hview, length_bytes, bytesBeforeFragment_bytes]
  by_cases hempty : query = ""
  · subst hempty
    unfold acceptsQuery
    cases gate.isOpen <;> rfl
  have hnonempty : query.isEmpty = false := by simpa using hempty
  have hbytes : (bytes query).isEmpty = false := by
    rw [List.isEmpty_eq_false_iff]
    exact mt bytes_eq_nil_iff.mp hempty
  rw [hbytes, Bool.false_or]
  cases hopen : gate.isOpen with
  | false =>
    unfold acceptsQuery
    rw [hopen]
    rfl
  | true =>
    cases hfits : gate.view.fits path query.utf8ByteSize with
    | false =>
      unfold acceptsQuery
      rw [hopen, hnonempty, hfits]
      rfl
    | true =>
      rw [fst_acceptsQuery hopen hfits, View.acceptedBytes_bytes hplain (fits_beforeFragment hfits)]
      rfl

/-- Whether a segment of a byte query writes a parameter that is accepted when it is asked about
alone. -/
def acceptsByteSegment (gate : Gate) (path : String) (segment : ByteSegment) : Bool :=
  segment.param?.any fun param => (gate.acceptsParam path param.1 param.2).1

/-- A segment's parameter is accepted when its key and its value are the bytes of a name and a value
that make an accepted parameter. -/
theorem acceptsByteSegment_iff {segment : ByteSegment} :
    gate.acceptsByteSegment path segment = true ↔
      ∃ name value, bytes name = segment.key ∧ bytes value = segment.value ∧
        (gate.acceptsParam path name value).1 = true := by
  unfold acceptsByteSegment
  rw [Option.any_eq_true, Prod.exists]
  simp only [ByteSegment.param?_eq_some_iff, and_assoc]

/-- A byte query that is judged by its segments is accepted exactly when the parameter of each
segment is. -/
theorem BySegments.acceptsBytes_iff
    (h : gate.BySegments path query.length (byteSegments (bytesBeforeFragment query)).length)
    (hsound : gate.Sound) (hlike : Alike gate later) :
    (later.acceptsBytes path query).1 = true ↔
      ∀ segment ∈ byteSegments (bytesBeforeFragment query), ∃ name value,
        bytes name = segment.key ∧ bytes value = segment.value ∧
          (gate.acceptsParam path name value).1 = true := by
  have hlater := h.of_alike hlike
  have hall : (later.acceptsBytes path query).1 =
      (byteSegments (bytesBeforeFragment query)).all (gate.acceptsByteSegment path) := by
    rw [fst_acceptsBytes, hlater.isOpen, hlater.fits, Bool.or_true, Bool.true_and, Bool.true_and,
      View.acceptedBytes_eq_all (hsound.of_alike hlike).framed hlater.bounded hlater.pos hlater.few,
      h.ruled_eq hlike]
    rfl
  rw [hall, List.all_eq_true]
  exact forall₂_congr fun segment _ => acceptsByteSegment_iff

/-- After any session, with any questions in between: at a gate, open or closed, the bytes of a
query are judged as the query, if nothing before its fragment is written as an escape; and if the
gate is open and does not accept every parameter on the path, a byte query that has segments, but
not too many, and is not too long is accepted exactly when the key and the value of each segment are
the bytes of a name and a value, and the parameter that they make is accepted when it is asked about
alone. -/
theorem acceptsBytes_agrees (limits : Limits) (plugins : List Plugin)
    (operations : List Operation) (questions : List Question) (path : String) :
    let gate := (new limits plugins).after operations
    let later := gate.afterAsking questions
    (∀ query : String, '%' ∉ (beforeFragment query).toList →
      (later.acceptsBytes path (bytes query)).1 = (gate.acceptsQuery path query).1) ∧
    ∀ query : List UInt8, gate.isOpen = true → gate.view.boundless path = false →
      path.utf8ByteSize + 1 + query.length ≤ limits.maxUrlLength →
      byteSegments (bytesBeforeFragment query) ≠ [] →
      (byteSegments (bytesBeforeFragment query)).length ≤ limits.maxParams →
      ((later.acceptsBytes path query).1 = true ↔
        ∀ segment ∈ byteSegments (bytesBeforeFragment query), ∃ name value,
          bytes name = segment.key ∧ bytes value = segment.value ∧
            (gate.acceptsParam path name value).1 = true) := by
  intro gate later
  have hsound : gate.Sound := (sound_new limits plugins).after operations
  have hlike : Alike gate later := gate.alike_afterAsking questions
  have hlimits : gate.limits = limits := (new limits plugins).limits_after operations
  refine ⟨fun query hplain => acceptsBytes_bytes hlike hplain, ?_⟩
  intro query hopen hbounded hfits hsegments hfew
  rw [← hlimits] at hfits hfew
  have hjudged : gate.BySegments path query.length
      (byteSegments (bytesBeforeFragment query)).length :=
    ⟨hopen, hbounded, decide_eq_true hfits, List.length_pos_of_ne_nil hsegments, hfew⟩
  exact hjudged.acceptsBytes_iff hsound hlike

/-- The bytes of a query with a fragment are judged as the query, and a query with a byte that is
not UTF-8 is refused. -/
theorem acceptsBytes_invalid_name :
    let gate := (new {} []).after declaringNameAndAge
    let later := gate.afterAsking [.filterUrl "/?age"]
    let invalid : List UInt8 := bytes "age=36&name=Ada" ++ [255]
    ('%' ∉ (beforeFragment "age=36&name==#%").toList ∧
      (later.acceptsBytes "/" (bytes "age=36&name==#%")).1 = true) ∧
    (gate.isOpen = true ∧ gate.view.boundless "/" = false ∧
      "/".utf8ByteSize + 1 + invalid.length ≤ 8192 ∧
      byteSegments (bytesBeforeFragment invalid) ≠ [] ∧
      (byteSegments (bytesBeforeFragment invalid)).length ≤ 100 ∧
      (later.acceptsBytes "/" invalid).1 = false) := by
  intro gate later invalid
  obtain ⟨hsame, hjudged⟩ := acceptsBytes_agrees {} [] declaringNameAndAge [.filterUrl "/?age"] "/"
  have hplain : '%' ∉ (beforeFragment "age=36&name==#%").toList := by decide +kernel
  have haccepted : (gate.acceptsQuery "/" "age=36&name==#%").1 = true := by decide +kernel
  have hopen : gate.isOpen = true := by decide +kernel
  have hbounded : gate.view.boundless "/" = false := by decide +kernel
  have hfits : "/".utf8ByteSize + 1 + invalid.length ≤ 8192 := by decide +kernel
  have hsegments : byteSegments (bytesBeforeFragment invalid) ≠ [] := by decide +kernel
  have hfew : (byteSegments (bytesBeforeFragment invalid)).length ≤ 100 := by decide +kernel
  refine ⟨⟨hplain, (hsame _ hplain).trans haccepted⟩, hopen, hbounded, hfits, hsegments, hfew, ?_⟩
  rw [Bool.eq_false_iff]
  intro haccepts
  have hall := (hjudged invalid hopen hbounded hfits hsegments hfew).mp haccepts
  obtain ⟨_, value, _, hvalue, _⟩ := hall ⟨bytes "name", bytes "Ada" ++ [255]⟩ (by decide +kernel)
  have hsome : ofBytes? (bytes "Ada" ++ [255]) = some value := ofBytes?_eq_some_iff.mpr hvalue
  have hnone : ofBytes? (bytes "Ada" ++ [255]) = none := by decide +kernel
  rw [hnone] at hsome
  cases hsome

end Gate

end QueryGate
