import QueryGate.Text.Numeral
import QueryGate.Text.Quoted

/-!
# Rules for one parameter

A rule names a parameter and constrains its value. A constraint may be left to a predicate of
the caller; such a predicate may break off without an answer, and then the value counts as
refused, before the rule's inversion is applied.
-/

namespace QueryGate

/-- What a predicate of the caller answers. -/
inductive Verdict where
  /-- The value is accepted. -/
  | accept
  /-- The value is refused. -/
  | refuse
  /-- The predicate broke off without an answer. -/
  | breakdown
  deriving DecidableEq, Repr

/-- A verdict from a truth value. -/
def Verdict.ofBool (b : Bool) : Verdict :=
  if b then .accept else .refuse

/-- Whether a verdict accepts; a predicate that broke off has not accepted. -/
def Verdict.isAccept : Verdict → Bool
  | .accept => true
  | .refuse => false
  | .breakdown => false

/-- The verdict from a truth value is to accept exactly if the value is true. -/
theorem Verdict.ofBool_eq_accept_iff {b : Bool} : Verdict.ofBool b = .accept ↔ b = true := by
  cases b <;> simp [Verdict.ofBool]

/-- The verdict from a truth value accepts exactly if the value is true. -/
theorem Verdict.isAccept_ofBool (b : Bool) : (Verdict.ofBool b).isAccept = b := by
  cases b <;> rfl

/-- A predicate on a decoded value. -/
abbrev Predicate := String → Verdict

/-- The caller's predicate on the name and the decoded value of a parameter. -/
abbrev Callback := String → String → Verdict

/-- The parameter name that stands for every parameter of its scope. -/
def acceptAllName : String := "*"

/-- What a rule asks of a value. -/
inductive Constraint where
  /-- The value is empty. -/
  | keyOnly
  /-- Any value will do. -/
  | any
  /-- The value is one of a list. -/
  | oneOf (values : List String)
  /-- The value is an integer between two bounds, both included. -/
  | range (min max : Int)
  /-- The gate's callback decides. -/
  | callback
  /-- A predicate decides, which the plugin `plugin` made of the text `source`. -/
  | plugin (plugin source : String) (accepts : Predicate)

/-- Whether a value is the numeral of an integer between two bounds. -/
def inRange (min max : Int) (value : String) : Bool :=
  (Text.integer? value.toList).any fun n => decide (min ≤ n) && decide (n ≤ max)

/-- A rule for one parameter. -/
structure Rule where
  /-- The decoded name of the parameter. -/
  name : String
  /-- What is asked of its value. -/
  constraint : Constraint
  /-- Whether the rule accepts what the constraint refuses, and refuses what it accepts. -/
  inverted : Bool := false

namespace Rule

/-- The rule that accepts every parameter of its scope. -/
def acceptAll : Rule :=
  { name := acceptAllName, constraint := .any }

/-- Whether the rule stands for every parameter of its scope. -/
def isAcceptAll (rule : Rule) : Bool :=
  rule.name == acceptAllName

/-- Whether the constraint holds of a value, apart from inversion. -/
def meets (rule : Rule) (callback : Option Callback) (value : String) : Bool :=
  match rule.constraint with
  | .keyOnly => value.isEmpty
  | .any => true
  | .oneOf values => values.contains value
  | .range min max => inRange min max value
  | .callback => callback.any fun decide => (decide rule.name value).isAccept
  | .plugin _ _ accepts => (accepts value).isAccept

/-- Whether the rule accepts a value. -/
def accepts (rule : Rule) (callback : Option Callback) (value : String) : Bool :=
  rule.meets callback value != rule.inverted

end Rule

/-- A description of a constraint. -/
def Constraint.describe : Constraint → String
  | keyOnly => "KeyOnly"
  | any => "Any"
  | oneOf values => "Enum(" ++ Text.quotedList values ++ ")"
  | range min max => "Range \x7b min: " ++ toString min ++ ", max: " ++ toString max ++ " \x7d"
  | callback => "Callback"
  | plugin name source _ =>
    "Plugin \x7b plugin: " ++ Text.quoted name ++ ", source: " ++ Text.quoted source ++ ", .. \x7d"

/-- A description of a rule. -/
def Rule.describe (rule : Rule) : String :=
  "ParamRule \x7b name: " ++ Text.quoted rule.name ++ ", constraint: " ++
    rule.constraint.describe ++ ", inverted: " ++ toString rule.inverted ++ " \x7d"

end QueryGate
