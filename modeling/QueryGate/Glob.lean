import QueryGate.Regex.Matcher
import QueryGate.Regex.Parser

/-!
# Globs

A glob is a text in which `*` stands for any run of characters and, where single wildcards are
wanted, `?` for exactly one. Every other character stands for itself. A glob is rewritten as the text
of an expression that is anchored at both ends, and that text is compiled. Neither wildcard then
stands for a line feed.
-/

namespace QueryGate.Glob

/-- What a wildcard is written as; other characters are none. With `singles`, a `?` stands for one
character. -/
def wildcard? (singles : Bool) (c : Char) : Option (List Char) :=
  if c == '*' then some ['.', '*']
  else if singles && c == '?' then some ['.']
  else none

/-- The text of an expression while a glob is read. -/
structure Draft where
  /-- What is written so far. -/
  written : List Char
  /-- The characters read since the last wildcard, which stand for themselves. -/
  literal : List Char
  deriving DecidableEq, Repr

namespace Draft

/-- Nothing but the anchor in front. -/
def start : Draft :=
  ⟨['^'], []⟩

/-- Writes the characters that stand for themselves. -/
def flush (draft : Draft) : Draft :=
  ⟨draft.written ++ Regex.escape draft.literal, []⟩

/-- Writes what a wildcard is written as. -/
def write (draft : Draft) (text : List Char) : Draft :=
  { draft with written := draft.written ++ text }

/-- Takes one character of the glob in. -/
def take (singles : Bool) (draft : Draft) (c : Char) : Draft :=
  match wildcard? singles c with
  | some text => draft.flush.write text
  | none => { draft with literal := draft.literal ++ [c] }

end Draft

/-- The text of the expression for a glob. -/
def source (singles : Bool) (glob : String) : List Char :=
  ((glob.toList.foldl (Draft.take singles) .start).flush.write ['$']).written

/-- Compiles a glob, unless its program would be too large. -/
def compile? (singles : Bool) (glob : String) : Option Regex :=
  Regex.parseWith? .basic Regex.defaultSizeLimit (source singles glob)

/-- The texts of some globs. -/
example : source false "a.b?" = "^a\\.b\\?$".toList ∧ source true "a.b?" = "^a\\.b.$".toList := by
  decide

end QueryGate.Glob
