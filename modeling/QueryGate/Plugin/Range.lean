import QueryGate.Plugin.Basic
import QueryGate.Text.Bounds

/-!
# The range plugin

`range:MIN-MAX` accepts the integers between two bounds, both included.
-/

namespace QueryGate.Plugin

/-- Reads the constraint of a range. -/
def parseRange (constraint : String) : Outcome :=
  match afterKeyword? "range:" constraint with
  | none => .notApplicable
  | some body =>
    match Text.bounds? body with
    | none => complain ("invalid range bounds: " ++ String.ofList body)
    | some (min, max) =>
      if max < min then complain ("invalid range: " ++ toString min ++ " > " ++ toString max)
      else .accepted fun value => .ofBool (inRange min max value)

/-- The range plugin. -/
def range : Plugin where
  name := "range"
  recognises := hasKeyword "range:"
  parse _ := parseRange
  close := .ok ()

end QueryGate.Plugin
