import QueryGate.Error
import QueryGate.Rule
import QueryGate.Text.Blank
import QueryGate.Text.Cut

/-!
# Plugins

A plugin turns constraint text of its own syntax into a predicate on values. Text outside its
syntax is left to the next plugin; text inside it that makes no sense ends the reading of the
rules. Plugins are asked in order, and the first that has something to say decides.
-/

namespace QueryGate

/-- What a plugin makes of a constraint. -/
inductive Plugin.Outcome where
  /-- The constraint is accepted; the predicate decides on values. -/
  | accepted (accepts : Predicate)
  /-- The text is outside the plugin's syntax. -/
  | notApplicable
  /-- The text is in the plugin's syntax but wrong. -/
  | malformed (complaint : Complaint)

/-- Whether the text was outside the plugin's syntax. -/
def Plugin.Outcome.isNotApplicable : Plugin.Outcome → Bool
  | notApplicable => true
  | _ => false

/-- A constraint syntax. -/
structure Plugin where
  /-- The name used in errors and in rules. -/
  name : String
  /-- Whether a text looks like a constraint of this syntax. -/
  recognises : String → Bool
  /-- Reads the constraint of a parameter: the parameter's name, then the text. -/
  parse : String → String → Plugin.Outcome
  /-- Releases what the plugin holds, which may fail. -/
  close : Except Error Unit

namespace Plugin

/-- A plugin that recognises what it does not leave to others. -/
def ofParse (name : String) (parse : String → String → Outcome)
    (close : Except Error Unit := .ok ()) : Plugin where
  name := name
  recognises constraint := !(parse "" constraint).isNotApplicable
  parse := parse
  close := close

/-- The trimmed text after a keyword, if the constraint starts with it. -/
def afterKeyword? (keyword constraint : String) : Option (List Char) :=
  (keyword.toList.isPrefixOf? constraint.toList).map Text.trim

/-- Behind a keyword stands what is written there, trimmed. -/
theorem afterKeyword?_append (keyword text : String) :
    afterKeyword? keyword (keyword ++ text) = some (Text.trim text.toList) := by
  rw [afterKeyword?, String.toList_append, Text.isPrefixOf?_eq_some_iff.mpr rfl]
  rfl

/-- Whether the constraint starts with a keyword. -/
def hasKeyword (keyword constraint : String) : Bool :=
  keyword.toList.isPrefixOf constraint.toList

/-- The words of a complaint about a text. -/
def complain (text : String) : Outcome :=
  .malformed (.words text)

end Plugin

end QueryGate
