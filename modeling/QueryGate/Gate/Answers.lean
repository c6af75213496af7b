import QueryGate.Gate.Basic
import QueryGate.Query.Url

/-!
# What a gate answers

Checking and filtering URLs and queries. A closed gate accepts nothing and keeps no parameter.
Every answer comes with the gate afterwards, which differs at most in what it keeps ready for
later answers.
-/

namespace QueryGate.Gate

open QueryGate.Query

/-! ## Checking -/

/-- Whether every parameter of a URL is accepted. A URL without query is. -/
def acceptsUrl (gate : Gate) (url : String) : Bool × Gate :=
  if !gate.isOpen || gate.limits.maxUrlLength < url.utf8ByteSize then (false, gate)
  else
    let parts := Url.split url
    match parts.query with
    | some query => gate.lookup (gate.view.acceptsQuery parts.path query)
    | none => (true, gate)

/-- Whether every parameter of a query is accepted on a path. -/
def acceptsQuery (gate : Gate) (path query : String) : Bool × Gate :=
  if !gate.isOpen then (false, gate)
  else if query.isEmpty then (true, gate)
  else if !gate.view.fits path query.utf8ByteSize then (false, gate)
  else gate.lookup (gate.view.acceptsQuery path (beforeFragment query))

/-- Whether every parameter of a byte query is accepted on a path, with names and values taken as
they are written. -/
def acceptsBytes (gate : Gate) (path : String) (query : List UInt8) : Bool × Gate :=
  if !gate.isOpen then (false, gate)
  else if query.isEmpty then (true, gate)
  else if !gate.view.fits path query.length then (false, gate)
  else gate.lookup (gate.view.acceptsBytes path (bytesBeforeFragment query))

/-- Whether one decoded parameter is accepted on a path. -/
def acceptsParam (gate : Gate) (path name value : String) : Bool × Gate :=
  if !gate.isOpen then (false, gate)
  else gate.lookup (gate.view.acceptsParam path name value)

/-! ## Filtering -/

/-- The accepted part of a query without fragment. It is gathered in a buffer of the pool; if the
query has too many segments, the half-filled buffer goes back and nothing is kept. -/
def filterParams (gate : Gate) (path query : String) : String × Gate :=
  let (extent, gate) := gate.lookup (gate.view.extent path query)
  match extent with
  | .nothing => ("", gate)
  | .everything => (query, gate)
  | .segments coverage path =>
    let (buffer, pool) := gate.pool.take
    let ((buffer, complete), gate) := gate.lookup (gate.view.gather coverage path query buffer)
    (if complete then buffer.text else "", { gate with pool := pool.give buffer })

/-- The accepted part of a query on a path, with order and spelling kept. -/
def filterQuery (gate : Gate) (path query : String) : String × Gate :=
  if !gate.isOpen || !gate.view.fits path query.utf8ByteSize then ("", gate)
  else gate.filterParams path (beforeFragment query)

/-- A URL with only the accepted part of its query, and with its fragment if it is to be kept. A
URL without query stays as it is; one that cannot be judged loses its query and its fragment. -/
def reduceUrl (gate : Gate) (keepFragment : Bool) (url : String) : String × Gate :=
  let parts := Url.split url
  match parts.query with
  | none => (url, gate)
  | some query =>
    if !gate.isOpen || gate.limits.maxUrlLength < url.utf8ByteSize then (parts.path, gate)
    else
      let (filtered, gate) := gate.filterParams parts.path query
      let visible := if filtered.isEmpty then parts.path else parts.path ++ "?" ++ filtered
      (if keepFragment then visible ++ parts.fragment.getD "" else visible, gate)

/-- A URL without the parameters that are not accepted. -/
def filterUrl (gate : Gate) (url : String) : String × Gate :=
  gate.reduceUrl true url

/-- The canonical form of a URL: without the parameters that are not accepted and without
fragment. A URL without query stays as it is. -/
def canonicalUrl (gate : Gate) (url : String) : String × Gate :=
  gate.reduceUrl false url

end QueryGate.Gate
