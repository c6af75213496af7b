import QueryGate.Glob
import QueryGate.Path
import QueryGate.Text.Blank
import QueryGate.Text.Cut

/-!
# URL patterns

A pattern is the text of a path in which `*` is a wildcard. Most patterns are decided without an
expression: a text without wildcards matches itself, a text whose only wildcards are at its end
matches what starts with the rest of it, and one that is nothing but wildcards matches all paths.
A pattern whose wildcards follow a `/` matches whole segments and the path before that `/` too.
-/

namespace QueryGate

open QueryGate.Text

/-- How a pattern is compared with a path. -/
inductive Pattern.Mode where
  /-- The path has to equal the text. -/
  | exact
  /-- The path has to start with the stem and, at a boundary, to end or go on with `/` there. -/
  | stem (stem : List Char) (boundary : Bool)
  /-- The path has to match the text as a glob. -/
  | wildcard
  /-- Every path will do. -/
  | all
  deriving DecidableEq, Repr

/-- A URL pattern. -/
structure Pattern where
  /-- The text. -/
  text : String
  /-- How it is compared with a path. -/
  mode : Pattern.Mode
  deriving DecidableEq, Repr

namespace Pattern

/-- The mode of a pattern with this text. -/
def Mode.ofText (cs : List Char) : Mode :=
  if !cs.contains '*' then .exact
  else if cs.getLast? = some '*' then
    let starless := dropTrailing '*' cs
    let stem := dropTrailing '/' starless
    if stem.contains '*' then .wildcard
    else if stem.isEmpty then .all
    else .stem stem (starless.getLast? = some '/')
  else .wildcard

/-- The pattern with this text, which is taken as it is. -/
def ofText (text : String) : Pattern :=
  ⟨text, Mode.ofText text.toList⟩

/-- Whether the pattern has a wildcard. -/
def hasWildcard (pattern : Pattern) : Bool :=
  pattern.mode ≠ .exact

/-- The expression of the pattern's text as a glob, unless it is too large. -/
def toRegex? (text : String) : Option Regex :=
  Glob.compile? false text

/-- Whether a path starts with a stem and, at a boundary, ends or goes on with `/` there. -/
def Mode.stemMatches (stem : List Char) (boundary : Bool) (path : String) : Bool :=
  match stem.isPrefixOf? path.toList with
  | none => false
  | some rest => !boundary || rest.isEmpty || rest.head? == some '/'

/-- Whether the pattern matches a path. -/
def matchesPath (pattern : Pattern) (path : String) : Bool :=
  pattern.text == path ||
    match pattern.mode with
    | .exact => false
    | .all => true
    | .stem stem boundary => Mode.stemMatches stem boundary path
    | .wildcard => (toRegex? pattern.text).any (·.search path)

/-- Replaces each escaped `?` by a plain one. -/
def plainQuestionMarks : List Char → List Char
  | [] => []
  | '\\' :: '?' :: rest => '?' :: plainQuestionMarks rest
  | c :: rest => c :: plainQuestionMarks rest

/-- The form in which the pattern of a group is kept: trimmed, without escapes, and starting with
`/` or `*`. A pattern without wildcards is cleaned like a path. -/
def normalize (text : List Char) : List Char :=
  let plain := plainQuestionMarks (trim text)
  if plain.contains '*' then
    if plain.head? == some '/' || plain.head? == some '*' then plain else '/' :: plain
  else Path.clean plain

end Pattern

end QueryGate
