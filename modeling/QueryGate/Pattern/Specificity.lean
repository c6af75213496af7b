import QueryGate.Pattern.Basic

/-!
# Specificity

How precisely a pattern targets a path: a literal pattern precedes every pattern with a wildcard;
then fewer wildcards precede more; then a wildcard inside the text precedes wildcards at its end
only; then more segments precede fewer; then the longer literal part precedes the shorter.
-/

namespace QueryGate.Pattern

open QueryGate.Text

/-- The measures of precision of a pattern. -/
structure Specificity where
  /-- Whether there is no wildcard. -/
  literal : Bool
  /-- The number of wildcards. -/
  wildcards : Nat
  /-- Whether a wildcard stands inside the text. -/
  inner : Bool
  /-- The number of non-empty segments. -/
  segments : Nat
  /-- The number of bytes that are not wildcards. -/
  literalLength : Nat
  deriving DecidableEq, Repr

/-- The specificity of a pattern. -/
def specificity (pattern : Pattern) : Specificity :=
  let cs := pattern.text.toList
  let wildcards := cs.count '*'
  { literal := wildcards = 0
    wildcards := wildcards
    inner := pattern.mode = .wildcard
    segments := ((cs.splitOn '/').filter fun segment => !segment.isEmpty).length
    literalLength := byteLength cs - wildcards }

namespace Specificity

/-- Compares two patterns by precision; the greater one is more specific. -/
def compare (a b : Specificity) : Ordering :=
  (Ord.compare a.literal b.literal).then <|
  (Ord.compare b.wildcards a.wildcards).then <|
  (Ord.compare a.inner b.inner).then <|
  (Ord.compare a.segments b.segments).then <|
  Ord.compare a.literalLength b.literalLength

end Specificity

/-- Whether pattern `p` comes before `q` or has the same place: it is more specific, or as specific
and its text is not the later one. -/
def precedes (p q : Pattern) : Bool :=
  match Specificity.compare p.specificity q.specificity with
  | .gt => true
  | .lt => false
  | .eq => decide (p.text ≤ q.text)

end QueryGate.Pattern
