import QueryGate.Glob
import QueryGate.Lru
import QueryGate.Plugin.Basic
import QueryGate.Regex.Parser

/-!
# The pattern and regex plugins

`pattern:GLOB` accepts the values that a glob matches, `regex:EXPR` those that an expression
matches from start to end. The two differ only in how the text after the keyword is compiled.
Compiled expressions may be kept in a bounded store; this saves work and changes no outcome.
-/

namespace QueryGate.Plugin

/-- A syntax whose constraints are a keyword and an expression. -/
structure ExpressionSyntax where
  /-- The name of the plugin. -/
  name : String
  /-- The keyword, with its colon. -/
  keyword : String
  /-- The complaint about a missing expression. -/
  missing : String
  /-- Compiles an expression. -/
  compile : String → Option Regex

namespace ExpressionSyntax

/-- The outcome for an expression, compiled or not. -/
def outcome (compiled : Option Regex) : Outcome :=
  match compiled with
  | some regex => .accepted fun value => .ofBool (regex.search value)
  | none => .malformed .expression

/-- Reads a constraint. -/
def parse (form : ExpressionSyntax) (constraint : String) : Outcome :=
  match afterKeyword? form.keyword constraint with
  | none => .notApplicable
  | some [] => complain form.missing
  | some expression => outcome (form.compile (String.ofList expression))

/-- The plugin of a syntax. -/
def toPlugin (form : ExpressionSyntax) : Plugin where
  name := form.name
  recognises := hasKeyword form.keyword
  parse _ := form.parse
  close := .ok ()

/-- The compiled expressions that a plugin keeps. -/
abbrev Store := Lru String Regex

/-- Reads a constraint with the help of kept expressions, and keeps what it compiles. -/
def parseWith (form : ExpressionSyntax) (store : Store) (constraint : String) : Outcome × Store :=
  match afterKeyword? form.keyword constraint with
  | none => (.notApplicable, store)
  | some [] => (complain form.missing, store)
  | some expression =>
    let text := String.ofList expression
    let answer := store.getOrBuild text fun _ => form.compile text
    (outcome answer.value, answer.store)

end ExpressionSyntax

/-- Globs, in which a `?` stands for one character. -/
def globSyntax : ExpressionSyntax where
  name := "pattern"
  keyword := "pattern:"
  missing := "empty pattern"
  compile := Glob.compile? true

/-- Regular expressions, anchored at both ends, where a table gives the classes named by a
property. -/
def regexSyntaxOver (properties : Regex.Properties) : ExpressionSyntax where
  name := "regex"
  keyword := "regex:"
  missing := "empty regex"
  compile expression :=
    Regex.parseWith? properties Regex.sizeLimit
      (['^', '(', '?', ':'] ++ expression.toList ++ [')', '$'])

/-- Regular expressions, anchored at both ends. -/
def regexSyntax : ExpressionSyntax := regexSyntaxOver .basic

/-- The pattern plugin. -/
def pattern : Plugin := globSyntax.toPlugin

/-- The regex plugin where a table gives the classes named by a property. -/
def regexOver (properties : Regex.Properties) : Plugin := (regexSyntaxOver properties).toPlugin

/-- The regex plugin. -/
def regex : Plugin := regexOver .basic

end QueryGate.Plugin
