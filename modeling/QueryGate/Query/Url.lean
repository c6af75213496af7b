import QueryGate.Query.SegmentSpan
import QueryGate.Text.Cut

/-!
# The parts of a URL

A URL is cut at its first `#` into what a server sees and a fragment, and the former at its
first `?` into a path and a query. A fragment is never part of a query.
-/

namespace QueryGate.Query

open QueryGate.Text

/-- A URL taken apart. -/
structure Url where
  /-- Everything before the query and the fragment. -/
  path : String
  /-- The query without its `?`, if there is a `?` before the fragment. -/
  query : Option String
  /-- The fragment with its `#`, if there is one. -/
  fragment : Option String
  deriving DecidableEq, Repr

/-- Takes a URL apart. -/
def Url.split (url : String) : Url :=
  let visible := url.toList.takeWhile (· != '#')
  let rest := url.toList.dropWhile (· != '#')
  let fragment := if rest.isEmpty then none else some (String.ofList rest)
  match cutAt? '?' visible with
  | some (path, query) => ⟨String.ofList path, some (String.ofList query), fragment⟩
  | none => ⟨String.ofList visible, none, fragment⟩

/-- The part of a query before its first `#`. -/
def beforeFragment (query : String) : String :=
  String.ofList (query.toList.takeWhile (· != '#'))

/-- The part of a byte query before its first `#`. -/
def bytesBeforeFragment (query : List UInt8) : List UInt8 :=
  query.takeWhile (· != hash)

end QueryGate.Query
