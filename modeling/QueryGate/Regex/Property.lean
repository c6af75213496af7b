import QueryGate.Regex.CharSet
import QueryGate.Text.Letter

/-!
# Classes named by a property

A class of characters may be named by a property of Unicode or by a property and its value. The
tables of the properties are not part of this library, so a table is given to whatever has to know
the members of such a class. One with the few properties that are needed elsewhere is defined here.
-/

namespace QueryGate.Regex

open QueryGate.Text

/-- What a class is named by. -/
inductive PropertyName where
  /-- One letter. -/
  | letter (c : Char)
  /-- A name. -/
  | named (name : List Char)
  /-- A property and its value. -/
  | valued (name value : List Char)
  deriving DecidableEq, Repr

/-- A table of properties. -/
structure Properties where
  /-- The members of a class, if the table has the class. -/
  set? : PropertyName → Option CharSet

/-- A name without what does not tell names apart: case, blanks, `_` and `-`, and `is` in front. -/
def looseName (name : List Char) : List Char :=
  let letters := (name.filter fun c => !(isBlank c || c == '_' || c == '-')).map Char.toLower
  match letters with
  | 'i' :: 's' :: rest => rest
  | _ => letters

/-- The table of the properties that are known here by their own names. -/
def Properties.basic : Properties where
  set?
    | .named name =>
      match String.ofList (looseName name) with
      | "any" => some .any
      | "ascii" => some ⟨[(0x00, 0x7F)]⟩
      | "alphabetic" | "alpha" => some ⟨rangesOfBoundaries CharSet.lastCodePoint alphabeticBoundaries⟩
      | "whitespace" | "wspace" | "space" => some Shorthand.blank.set
      | "decimalnumber" | "nd" | "digit" => some Shorthand.digit.set
      | _ => none
    | _ => none

end QueryGate.Regex
