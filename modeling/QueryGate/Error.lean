/-!
# Errors

Every way in which loading rules, limits or plugins can fail, as a cause with the data its text
needs. The text of an error that another party words is not known here; such an error has no
message.
-/

namespace QueryGate

/-- The kinds of errors in rule text. -/
inductive ParseFault.Kind where
  /-- Square brackets do not pair up. -/
  | unbalancedBrackets
  /-- A parameter has no name. -/
  | emptyName
  /-- The bounds of a range are out of order or too great. -/
  | invalidRange
  /-- A constraint cannot be understood. -/
  | invalidConstraint
  /-- A group has nothing before its `?`. -/
  | emptyPattern
  /-- Text follows the end of a constraint. -/
  | trailingInput
  deriving DecidableEq, Repr

/-- What is wrong with rule text. -/
inductive ParseFault where
  /-- A bracket at this byte offset has no partner. -/
  | unbalanced (offset : Nat)
  /-- The parameter has no name. -/
  | emptyName (spec : String)
  /-- A bound does not fit a signed 64-bit integer. -/
  | boundsOutOfRange (body : String)
  /-- The lower bound is above the upper one. -/
  | boundsReversed (name : String) (min max : Int)
  /-- The rule for every parameter has company. -/
  | acceptAllNotAlone (params : String)
  /-- Brackets stand in a parameter without `=`. -/
  | constraintWithoutEquals (spec : String)
  /-- No bracket follows the `=`. -/
  | bracketExpected (spec : String)
  /-- A list of values has none. -/
  | emptyValues (name : String)
  /-- A group has nothing before its `?`. -/
  | emptyPattern
  /-- Text follows the closing bracket. -/
  | trailingText (text : String)
  deriving DecidableEq, Repr

namespace ParseFault

/-- The kind of a fault. -/
def kind : ParseFault → Kind
  | unbalanced _ => .unbalancedBrackets
  | emptyName _ => .emptyName
  | boundsOutOfRange _ => .invalidRange
  | boundsReversed .. => .invalidRange
  | acceptAllNotAlone _ => .invalidConstraint
  | constraintWithoutEquals _ => .invalidConstraint
  | bracketExpected _ => .invalidConstraint
  | emptyValues _ => .invalidConstraint
  | emptyPattern => .emptyPattern
  | trailingText _ => .trailingInput

/-- The text of a fault. -/
def message : ParseFault → String
  | unbalanced offset => "unbalanced brackets at offset " ++ toString offset
  | emptyName spec => "empty parameter name in '" ++ spec ++ "'"
  | boundsOutOfRange body => "range bounds out of range: " ++ body
  | boundsReversed name min max =>
    "invalid range for '" ++ name ++ "': " ++ toString min ++ " > " ++ toString max
  | acceptAllNotAlone params => "'*' must be the only parameter in its list: " ++ params
  | constraintWithoutEquals spec => "constraint without '=': " ++ spec
  | bracketExpected spec => "expected '[' after '=' in '" ++ spec ++ "'"
  | emptyValues name => "empty value list for '" ++ name ++ "'"
  | emptyPattern => "URL group has no pattern before '?'"
  | trailingText text => "unexpected text after constraint: '" ++ text ++ "'"

end ParseFault

/-- What a plugin says about text that it recognises but cannot accept. -/
inductive Complaint where
  /-- A complaint in the plugin's own words. -/
  | words (text : String)
  /-- The expression does not compile, for reasons that its syntax would have to word. -/
  | expression
  deriving DecidableEq, Repr

/-- The words of a complaint, where they are known. -/
def Complaint.message : Complaint → Option String
  | words text => some text
  | expression => none

/-- What is wrong with a policy that was read without error or put together by hand. -/
inductive PolicyFault where
  /-- A rule has a blank name. -/
  | emptyName
  /-- The lower bound of a range is above the upper one. -/
  | boundsReversed (name : String) (min max : Int)
  /-- The rule for every parameter has company in its scope. -/
  | acceptAllNotAlone (scope : String)
  /-- A scope has a blank pattern. -/
  | emptyPattern
  deriving DecidableEq, Repr

/-- The text of a fault. -/
def PolicyFault.message : PolicyFault → String
  | emptyName => "empty parameter name"
  | boundsReversed name min max =>
    "invalid range for '" ++ name ++ "': " ++ toString min ++ " > " ++ toString max
  | acceptAllNotAlone scope => "'*' mixed with other parameters in " ++ scope
  | emptyPattern => "empty URL pattern"

/-- An error of the library. -/
inductive Error where
  /-- Rule text is wrong in the group with this number. -/
  | parse (group : Nat) (fault : ParseFault)
  /-- A plugin refuses the constraint of a parameter. -/
  | plugin (plugin : String) (complaint : Complaint) (param : String)
  /-- Rule text is too long. -/
  | rulesTooLarge (size limit : Nat)
  /-- A policy is wrong. -/
  | invalidRule (fault : PolicyFault)
  /-- The gate is closed. -/
  | closed
  /-- A plugin could not be closed, for a reason whose text may not be known. -/
  | pluginClose (plugin : String) (reason : Option String)
  /-- Limits or other settings are wrong. -/
  | config (reason : String)
  /-- A file cannot be read as text. -/
  | file
  /-- A text is not the JSON form of limits. -/
  | json
  deriving DecidableEq, Repr

/-- The text of an error, where it is known. -/
def Error.message : Error → Option String
  | parse group fault =>
    some ("Parse error in group " ++ toString group ++ ": " ++ fault.message)
  | plugin name complaint param =>
    complaint.message.map fun text =>
      "Plugin '" ++ name ++ "' rejected constraint: " ++ text ++ " (parameter '" ++ param ++ "')"
  | rulesTooLarge size limit =>
    some ("Rule text too large: " ++ toString size ++ " bytes exceeds limit of " ++ toString limit)
  | invalidRule fault => some ("Invalid rule: " ++ fault.message)
  | closed => some "Engine is closed"
  | pluginClose name reason =>
    reason.map fun text => "Plugin '" ++ name ++ "' failed to close: " ++ text
  | config reason => some ("Config error: " ++ reason)
  | file => none
  | json => none

end QueryGate
