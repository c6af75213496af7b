import QueryGate.Generation.Lookup
import QueryGate.Limits.Basic
import QueryGate.Path
import QueryGate.Query.Percent
import QueryGate.Query.Segment
import QueryGate.Query.SegmentSpan
import QueryGate.ScratchPool

/-!
# Judging a query

A query is judged against the rules of a generation, a callback and limits. It is accepted when
every one of its segments is permitted, and filtering keeps the permitted ones. Segments are counted
while they are looked at; a query with too many of them is refused, and filtering it keeps nothing.
Where the rules accept every parameter the segments are not looked at; where they declare no
parameter at all, none is accepted.
-/

namespace QueryGate

open QueryGate.Query

/-- What a query is judged by. -/
structure View where
  /-- The limits. -/
  limits : Limits
  /-- The rules. -/
  rules : Generation
  /-- The predicate for rules that leave the decision to the caller. -/
  callback : Option Callback

namespace View

/-- Whether a path and a query of so many bytes, with a `?` between, are short enough. -/
def fits (view : View) (path : String) (queryLength : Nat) : Bool :=
  decide (path.utf8ByteSize + 1 + queryLength ≤ view.limits.maxUrlLength)

/-- Whether there is a rule for a name and it accepts the value. -/
def permitsParam (view : View) (coverage : Coverage) (path name value : String) : Lookup Bool := do
  return (← view.rules.ruleFor coverage path name).any fun rule => rule.accepts view.callback value

/-- Whether a segment can be decoded and is permitted. -/
def permits (view : View) (coverage : Coverage) (path : String) (segment : Segment) :
    Lookup Bool :=
  match decode? segment.key, decode? segment.value with
  | some name, some value => view.permitsParam coverage path name value
  | _, _ => return false

/-- Whether a segment of a byte query is UTF-8 and permitted as it is written. -/
def permitsBytes (view : View) (coverage : Coverage) (path : String) (query : List UInt8)
    (span : SegmentSpan) : Lookup Bool := do
  match view.rules.index.slotOfBytes? query span.start span.keyEnd,
      Text.ofBytes? (span.value query) with
  | some slot, some value =>
    return (← view.rules.ruleAtSlot coverage path slot).any fun rule =>
      rule.accepts view.callback value
  | _, _ => return false

/-- Looks at segments in order, when `count` others were looked at before, and stops at the first one
that is too many or not permitted. -/
def allCounted {α : Type} (limit : Nat) (permitted : α → Lookup Bool) (count : Nat) :
    List α → Lookup Bool
  | [] => return true
  | segment :: rest => do
    if limit ≤ count then return false
    if ← permitted segment then allCounted limit permitted (count + 1) rest
    else return false

/-- Judges a query without fragment for a path. -/
def acceptsQuery (view : View) (path query : String) : Lookup Bool := do
  if query.isEmpty then return true
  if !view.fits path query.utf8ByteSize then return false
  let path := Path.forMatching path
  let coverage ← view.rules.coverage path
  if coverage.combined.isEmpty then return false
  if view.rules.acceptsAll coverage then return true
  allCounted view.limits.maxParams (view.permits coverage path) 0 (segments query)

/-- Judges a byte query without fragment for a path. Nothing in it is decoded. -/
def acceptsBytes (view : View) (path : String) (query : List UInt8) : Lookup Bool := do
  if query.isEmpty then return true
  let path := Path.forMatching path
  let coverage ← view.rules.coverage path
  if coverage.combined.isEmpty then return false
  if view.rules.acceptsAll coverage then return true
  allCounted view.limits.maxParams (view.permitsBytes coverage path query) 0 (segmentSpans query)

/-- Judges one decoded parameter for a path. -/
def acceptsParam (view : View) (path name value : String) : Lookup Bool := do
  let path := Path.forMatching path
  let coverage ← view.rules.coverage path
  if view.rules.acceptsAll coverage then return true
  view.permitsParam coverage path name value

/-- How much of a query has to be looked at to filter it. -/
inductive Extent where
  /-- Nothing, since nothing is kept. -/
  | nothing
  /-- Nothing, since everything is kept. -/
  | everything
  /-- The segments, on a path and under its coverage. -/
  | segments (coverage : Coverage) (path : String)

/-- How much of a query without fragment has to be looked at to filter it for a path. -/
def extent (view : View) (path query : String) : Lookup Extent := do
  if query.isEmpty || !view.fits path query.utf8ByteSize then return .nothing
  let path := Path.forMatching path
  let coverage ← view.rules.coverage path
  if coverage.combined.isEmpty then return .nothing
  if view.rules.acceptsAll coverage then return .everything
  return .segments coverage path

/-- Looks at segments in order, when `count` others were looked at before, and appends those that are
permitted to a buffer. It stops at the first segment that is too many, and tells whether there was
none. -/
def gatherCounted (limit : Nat) (permitted : Segment → Lookup Bool) (buffer : Buffer) (count : Nat) :
    List Segment → Lookup (Buffer × Bool)
  | [] => return (buffer, true)
  | segment :: rest => do
    if limit ≤ count then return (buffer, false)
    let buffer := if ← permitted segment then buffer.pushSegment segment.raw else buffer
    gatherCounted limit permitted buffer (count + 1) rest

/-- Gathers the permitted segments of a query in a buffer. -/
def gather (view : View) (coverage : Coverage) (path query : String) (buffer : Buffer) :
    Lookup (Buffer × Bool) :=
  gatherCounted view.limits.maxParams (view.permits coverage path) buffer 0 (segments query)

end View

end QueryGate
