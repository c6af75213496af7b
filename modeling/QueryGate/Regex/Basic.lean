import QueryGate.Regex.CharSet

/-!
# Regular expressions

An expression is built from steps over one character, assertions about a position, sequences,
choices and repetitions. It says from which positions of a text to which others a match may run;
which of several matches is preferred has no meaning here, because only the existence of a match
is ever asked for.
-/

namespace QueryGate

namespace Regex

open QueryGate.Text

/-- A condition on the sides of a position at which words stand. -/
inductive WordCheck where
  /-- A word character on exactly one side. -/
  | boundary
  /-- Word characters on both sides or on neither. -/
  | noBoundary
  /-- A word starts here. -/
  | starts
  /-- A word ends here. -/
  | ends
  /-- No word character before. -/
  | startHalf
  /-- No word character after. -/
  | endHalf
  deriving DecidableEq, Repr

/-- Whether the condition holds, given whether a word character stands before and after. -/
def WordCheck.holds (check : WordCheck) (before after : Bool) : Bool :=
  match check with
  | .boundary => before != after
  | .noBoundary => before == after
  | .starts => !before && after
  | .ends => before && !after
  | .startHalf => !before
  | .endHalf => !after

/-- What a line ends with. -/
inductive LineEnd where
  /-- A line feed. -/
  | feed
  /-- A line feed, a carriage return, or the one behind the other. -/
  | anyBreak
  deriving DecidableEq, Repr

/-- A condition on a position of a text, which consumes nothing. -/
inductive Assertion where
  /-- The start of the text. -/
  | textStart
  /-- The end of the text. -/
  | textEnd
  /-- The start of the text or of a line. -/
  | lineStart (ending : LineEnd)
  /-- The end of the text or of a line. -/
  | lineEnd (ending : LineEnd)
  /-- A condition on words of characters of a repertoire. -/
  | word (check : WordCheck) (repertoire : Repertoire)
  deriving DecidableEq, Repr

/-- Whether the assertion holds between the characters `before` and `after`, of which either is
missing at an end of the text. No line starts or ends between a carriage return and a line feed that
end a line together. -/
def Assertion.holds (a : Assertion) (before after : Option Char) : Bool :=
  match a with
  | .textStart => before.isNone
  | .textEnd => after.isNone
  | .lineStart .feed => before.all (· == '\n')
  | .lineStart .anyBreak =>
    before.all (· == '\n') || (before == some '\r' && after != some '\n')
  | .lineEnd .feed => after.all (· == '\n')
  | .lineEnd .anyBreak =>
    after.all (· == '\r') || (after == some '\n' && before != some '\r')
  | .word check repertoire =>
    check.holds (before.any repertoire.isWordChar) (after.any repertoire.isWordChar)

end Regex

/-- A regular expression. -/
inductive Regex where
  /-- Matches the empty text anywhere. -/
  | empty
  /-- Matches one character of the set. -/
  | step (set : Regex.CharSet)
  /-- Matches the empty text where the assertion holds. -/
  | assertion (a : Regex.Assertion)
  /-- Matches `r` and then `s`. -/
  | sequence (r s : Regex)
  /-- Matches `r` or `s`. -/
  | either (r s : Regex)
  /-- Matches `r` at least `least` times and, if there is a limit, at most `most` times. -/
  | repeated (r : Regex) (least : Nat) (most : Option Nat)
  deriving DecidableEq, Repr

namespace Regex

/-- Matches one character of the set. -/
def char (c : Char) : Regex :=
  step (.only c)

/-- Matches `r` any number of times. -/
def star (r : Regex) : Regex :=
  repeated r 0 none

/-- Matches the expressions of a list one after the other. -/
def sequenceAll : List Regex → Regex
  | [] => empty
  | [r] => r
  | r :: rs => sequence r (sequenceAll rs)

/-- Matches one of the expressions of a list, the first of which is given apart. -/
def eitherAll (r : Regex) : List Regex → Regex
  | [] => r
  | s :: rs => either r (eitherAll s rs)

end Regex

end QueryGate
