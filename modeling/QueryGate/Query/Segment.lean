import QueryGate.Text.Cut

/-!
# Segments of a query string

A query is a sequence of segments separated by `&`; empty ones do not count. A segment is a key,
or a key and a value joined by its first `=`. Nothing is decoded here: a segment keeps the
spelling it was written in, so that a filtered query can give it back unchanged.
-/

namespace QueryGate.Query

open QueryGate.Text

/-- One non-empty segment of a query. -/
structure Segment where
  /-- The segment as written. -/
  raw : String
  /-- The text before the first `=`. -/
  key : String
  /-- The text after the first `=`, empty when there is none. -/
  value : String
  deriving DecidableEq, Repr

/-- Reads one segment: it is cut at its first `=`. -/
def Segment.ofRaw (raw : List Char) : Segment :=
  let (key, value) := (cutAt? '=' raw).getD (raw, [])
  ⟨String.ofList raw, String.ofList key, String.ofList value⟩

/-- The non-empty segments of a query, in order. -/
def segments (query : String) : List Segment :=
  ((query.toList.splitOn '&').filter fun raw => !raw.isEmpty).map Segment.ofRaw

end QueryGate.Query
