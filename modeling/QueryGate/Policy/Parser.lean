import QueryGate.Pattern.Basic
import QueryGate.Plugin.Basic
import QueryGate.Policy
import QueryGate.Policy.Brackets
import QueryGate.Text.Bounds
import QueryGate.Text.Utf8

/-!
# Rule text

Rule text consists of groups separated by `;` or by line ends outside brackets; lines that start
with `#` are comments. A group is a list of parameters separated by `&`, with the URL pattern that
it is meant for and a `?` before it unless it is meant for every path. A parameter is a name alone,
or a name, `=` and a constraint in brackets; a `!` before the `=` inverts the rule. A constraint
that is none of the built-in ones is offered to the plugins and else is a list of values.
-/

namespace QueryGate

open QueryGate.Text

/-- The error for a bracket without partner in a group. -/
def Error.unbalanced (group offset : Nat) : Error :=
  .parse group (.unbalanced offset)

/-- The constraint that the first plugin with something to say makes of a text, if there is one. -/
def Constraint.ofPlugins (plugins : List Plugin) (name body : String) :
    Except Error (Option Constraint) :=
  match plugins with
  | [] => .ok none
  | first :: rest =>
    match first.parse name body with
    | .accepted accepts => .ok (some (.plugin first.name body accepts))
    | .notApplicable => ofPlugins rest name body
    | .malformed complaint => .error (.plugin first.name complaint name)

/-- The values that a text lists between commas, without blank ones. -/
def valueList (body : List Char) : List String :=
  (((Brackets.unescapedParts ',' body).map trim).filter fun value => !value.isEmpty).map
    String.ofList

/-- Reads the trimmed text between the brackets of a constraint. -/
def Constraint.parse (plugins : List Plugin) (group : Nat) (name : String) (body : List Char) :
    Except Error Constraint :=
  if body.isEmpty then .ok .keyOnly
  else if body = ['*'] then .ok .any
  else if body = "callback".toList then .ok .callback
  else if hasBoundsShape body then
    match bounds? body with
    | none => .error (.parse group (.boundsOutOfRange (String.ofList body)))
    | some (min, max) =>
      if max < min then .error (.parse group (.boundsReversed name min max))
      else .ok (.range min max)
  else
    match Constraint.ofPlugins plugins name (String.ofList body) with
    | .error error => .error error
    | .ok (some constraint) => .ok constraint
    | .ok none =>
      let values := valueList body
      if values.isEmpty then .error (.parse group (.emptyValues name)) else .ok (.oneOf values)

/-- Takes the `!` of an inverted rule off the text before its `=`. -/
def splitInversion (text : List Char) : List Char × Bool :=
  if text.getLast? = some '!' then (trim text.dropLast, true) else (text, false)

/-- Reads one parameter. -/
def Rule.parse (plugins : List Plugin) (group : Nat) (spec : List Char) : Except Error Rule := do
  match ← (Brackets.find '=' spec).mapError (Error.unbalanced group) with
  | none =>
    if spec.contains '[' || spec.contains ']' then
      throw (.parse group (.constraintWithoutEquals (String.ofList spec)))
    return { name := String.ofList spec, constraint := .any }
  | some (before, after) =>
    let (name, inverted) := splitInversion (trim before)
    if name.isEmpty then throw (.parse group (.emptyName (String.ofList spec)))
    match trim after with
    | '[' :: rest =>
      let (body, trailing) ← (Brackets.close rest).mapError (Error.unbalanced group)
      if !trailing.isEmpty then
        throw (.parse group (.trailingText (String.ofList trailing)))
      let name := String.ofList name
      return { name, constraint := ← Constraint.parse plugins group name (trim body), inverted }
    | _ => throw (.parse group (.bracketExpected (String.ofList spec)))

/-- Reads the parameters of a group. The rule for every parameter has to be the only one. -/
def Rule.parseList (plugins : List Plugin) (group : Nat) (params : List Char) :
    Except Error (List Rule) := do
  let specs ← (Brackets.split (· == '&') params).mapError (Error.unbalanced group)
  let specs := (specs.map trim).filter fun spec => !spec.isEmpty
  let rules ← specs.mapM (Rule.parse plugins group)
  if 1 < rules.length && rules.any Rule.isAcceptAll then
    throw (.parse group (.acceptAllNotAlone (String.ofList params)))
  return rules

namespace Policy

/-- The lines of a text without their ends, which are line feeds or carriage returns and line
feeds. -/
def lines (cs : List Char) : List (List Char) :=
  let parts := cs.splitOn '\n'
  let ended := parts.dropLast.map fun line =>
    if line.getLast? = some '\r' then line.dropLast else line
  ended ++ parts.getLast?.toList.filter fun line => !line.isEmpty

/-- Whether a line is a comment. -/
def isComment (line : List Char) : Bool :=
  (trimStart line).head? == some '#'

/-- The text without its comment lines. -/
def withoutComments (cs : List Char) : List Char :=
  ['\n'].intercalate ((lines cs).filter fun line => !isComment line)

/-- Cuts a group into the pattern it is meant for and its parameters, if it is not meant for every
path. The text before the `?` is a pattern if it starts with `/` or `*`, or if it has a `/` with no
`=` before it and the group has a constraint. -/
def splitGroup (number : Nat) (group : List Char) :
    Except Error (Option (List Char × List Char)) := do
  match ← (Brackets.find '?' group).mapError (Error.unbalanced number) with
  | none => return none
  | some (head, params) =>
    let rooted := group.head? == some '/' || group.head? == some '*'
    let barePath := (cutAt? '/' head).any fun (before, _) =>
      !before.contains '=' && group.contains '['
    if rooted || barePath then return some (head, params)
    if (trim head).isEmpty then throw (.parse number .emptyPattern)
    return none

/-- Adds the rules of a group. -/
def addGroup (plugins : List Plugin) (policy : Policy) (number : Nat) (group : List Char) :
    Except Error Policy := do
  if group.isEmpty then return policy
  match ← splitGroup number group with
  | some (pattern, params) =>
    let rules ← Rule.parseList plugins number params
    return policy.declareScope (String.ofList (Pattern.normalize pattern)) rules
  | none =>
    let rules ← Rule.parseList plugins number group
    return rules.foldl declare policy

/-- Whether a character outside brackets ends a group. -/
def isGroupEnd (c : Char) : Bool :=
  c == ';' || c == '\n'

/-- Reads rule text. Groups are counted from one; a bracket without partner anywhere in the text
is reported for group zero. -/
def parse (plugins : List Plugin) (text : String) : Except Error Policy := do
  let visible := withoutComments text.toList
  let groups ← (Brackets.split isGroupEnd visible).mapError (Error.unbalanced 0)
  (groups.zipIdx 1).foldlM
    (fun policy (group, number) => policy.addGroup plugins number (trim group)) empty

/-- Reads rule text from the bytes of a file, which is missing or may not be UTF-8. -/
def parseFile (plugins : List Plugin) (contents : Option (List UInt8)) : Except Error Policy :=
  match contents.bind Text.ofBytes? with
  | some text => parse plugins text
  | none => .error .file

end Policy

end QueryGate
