/-!
# Paths

A path is cleaned lexically: empty and `.` segments disappear, `..` removes the segment before
it, and the result starts with `/` and ends with `/` only when it is the root.
-/

namespace QueryGate.Path

/-- Adds a segment to the segments kept so far, the latest first. -/
def push (kept : List (List Char)) (segment : List Char) : List (List Char) :=
  if segment = [] ∨ segment = ['.'] then kept
  else if segment = ['.', '.'] then kept.tail
  else segment :: kept

/-- The segments of a path that remain after cleaning, in order. -/
def cleanSegments (path : List Char) : List (List Char) :=
  ((path.splitOn '/').foldl push []).reverse

/-- The cleaned form of a path. -/
def clean (path : List Char) : List Char :=
  '/' :: ['/'].intercalate (cleanSegments path)

/-- The path that rules are matched against: as given, except that the empty path is the root. -/
def forMatching (path : String) : String :=
  if path.isEmpty then "/" else path

end QueryGate.Path
