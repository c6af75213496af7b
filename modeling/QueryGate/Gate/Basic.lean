import QueryGate.Gate.View
import QueryGate.Policy.Parser
import QueryGate.ScratchPool

/-!
# Gates

A gate holds the rules in force and everything needed to judge queries by them and to replace
them. Rules are replaced as a whole: a change is made to a copy of the declared rules, the copy is
made ready as the next generation, and only then does it come into force; where a step fails the
gate stays as it was. Each operation gives the gate afterwards and says whether it succeeded.
-/

namespace QueryGate

/-- A gate for queries. -/
structure Gate where
  /-- The limits within which it works. -/
  limits : Limits
  /-- The rules in force. -/
  rules : Generation
  /-- The pattern expressions kept for the rules in force. -/
  globs : GlobStore
  /-- The predicate for rules that leave the decision to the caller. -/
  callback : Option Callback
  /-- The declared rules that the rules in force were made from. -/
  declared : Policy
  /-- The plugins for rule text, in the order in which they are asked. -/
  plugins : List Plugin
  /-- The plugins that a reset returns to. -/
  givenPlugins : List Plugin
  /-- Whether the gate has not been closed. -/
  isOpen : Bool
  /-- The number of the latest generation. -/
  generation : Nat
  /-- Buffers for filtered queries. -/
  pool : ScratchPool

namespace Gate

/-- The gate after an operation, and whether the operation succeeded. -/
abbrev Update := Except Error Unit × Gate

/-- A gate without rules. -/
def new (limits : Limits) (plugins : List Plugin) : Gate where
  limits := limits
  rules := .empty 0
  globs := .empty 1
  callback := none
  declared := .empty
  plugins := plugins
  givenPlugins := plugins
  isOpen := true
  generation := 0
  pool := .empty limits.poolSize

/-- What queries are judged by. -/
def view (gate : Gate) : View :=
  ⟨gate.limits, gate.rules, gate.callback⟩

/-- Performs a look-up with the expressions kept for the rules in force. -/
def lookup {α : Type} (gate : Gate) (question : Lookup α) : α × Gate :=
  let (answer, globs) := question.run gate.globs
  (answer, { gate with globs })

/-! ## Changing rules -/

/-- Puts a generation without rules into force. -/
def withoutRules (gate : Gate) : Gate :=
  let generation := gate.generation + 1
  { gate with
    rules := .empty generation
    globs := .empty 1
    callback := none
    declared := .empty
    generation }

/-- Declares other rules and puts them into force. -/
def install (gate : Gate) (policy : Policy) : Update :=
  if gate.isOpen then
    let generation := gate.generation + 1
    match Generation.prepare policy generation with
    | .error error => (.error error, gate)
    | .ok rules =>
      (.ok (), { gate with
        rules
        globs := .empty gate.limits.matcherCacheSize
        declared := policy
        generation })
  else (.error .closed, gate)

/-- Replaces all rules by those of a text. -/
def loadText (gate : Gate) (text : String) : Update :=
  if gate.isOpen then
    if gate.limits.maxRulesSize < text.utf8ByteSize then
      (.error (.rulesTooLarge text.utf8ByteSize gate.limits.maxRulesSize), gate)
    else
      match Policy.parse gate.plugins text with
      | .error error => (.error error, gate)
      | .ok policy => gate.install policy
  else (.error .closed, gate)

/-- Replaces all rules by those of a file, of which the contents are given if there is one. -/
def loadFile (gate : Gate) (contents : Option (List UInt8)) : Update :=
  if gate.isOpen then
    match contents with
    | none => (.error .file, gate)
    | some contents =>
      if gate.limits.maxRulesSize < contents.length then
        (.error (.rulesTooLarge contents.length gate.limits.maxRulesSize), gate)
      else
        match Text.ofBytes? contents with
        | none => (.error .file, gate)
        | some text => gate.loadText text
  else (.error .closed, gate)

/-- Adds a rule for every path, in the place of the one with its name if there is one. -/
def addRule (gate : Gate) (rule : Rule) : Update :=
  gate.install (gate.declared.declare rule)

/-- Adds rules for the paths that a pattern matches. -/
def addScope (gate : Gate) (pattern : String) (params : List Rule) : Update :=
  if (Text.trim pattern.toList).isEmpty then (.error (.invalidRule .emptyPattern), gate)
  else
    gate.install
      (gate.declared.declareScope (String.ofList (Pattern.normalize pattern.toList)) params)

/-- Removes all rules. Plugins and callback stay. -/
def clear (gate : Gate) : Update :=
  gate.install .empty

/-- Sets the predicate for rules that leave the decision to the caller. -/
def setCallback (gate : Gate) (callback : Callback) : Update :=
  if gate.isOpen then (.ok (), { gate with callback := some callback })
  else (.error .closed, gate)

/-- Removes all rules and the callback, and returns to the plugins that the gate was given. -/
def reset (gate : Gate) : Update :=
  if gate.isOpen then (.ok (), { gate.withoutRules with plugins := gate.givenPlugins })
  else (.error .closed, gate)

/-- Adds a plugin for rules read from now on. -/
def addPlugin (gate : Gate) (plugin : Plugin) : Update :=
  if gate.isOpen then (.ok (), { gate with plugins := gate.plugins ++ [plugin] })
  else (.error .closed, gate)

/-! ## Closing -/

/-- What closing a gate came to. -/
structure Closing where
  /-- The plugins that were told to close, in order. -/
  told : List Plugin
  /-- Success, or the error of the first plugin that failed to close. -/
  result : Except Error Unit
  /-- The gate afterwards. -/
  gate : Gate

/-- The error of the first plugin of a list that fails to close. -/
def closeAll : List Plugin → Except Error Unit
  | [] => .ok ()
  | plugin :: rest =>
    match plugin.close with
    | .ok () => closeAll rest
    | .error error => .error (.pluginClose plugin.name error.message)

/-- Closes the gate: its rules are removed and every plugin is told to close. Closing a closed gate
does nothing. -/
def close (gate : Gate) : Closing :=
  if gate.isOpen then
    ⟨gate.plugins, closeAll gate.plugins, { gate.withoutRules with isOpen := false }⟩
  else ⟨[], .ok (), gate⟩

/-! ## Looking at a gate -/

/-- The names of the plugins, in order. -/
def pluginNames (gate : Gate) : List String :=
  gate.plugins.map Plugin.name

/-- The name of the first plugin that recognises a constraint. -/
def pluginFor? (gate : Gate) (constraint : String) : Option String :=
  (gate.plugins.find? fun plugin => plugin.recognises constraint).map Plugin.name

/-- Figures about the rules in force. -/
structure Stats where
  /-- The number of the generation. -/
  generation : Nat
  /-- The number of rules for every path. -/
  globalRules : Nat
  /-- The number of URL patterns with rules. -/
  scopes : Nat
  /-- The number of distinct names. -/
  names : Nat
  /-- The number of pattern expressions kept. -/
  keptGlobs : Nat
  deriving DecidableEq, Repr

/-- The figures about the rules in force. -/
def stats (gate : Gate) : Stats where
  generation := gate.rules.number
  globalRules := gate.rules.globalCount
  scopes := gate.rules.scopes.length
  names := gate.rules.index.size
  keptGlobs := gate.globs.size

/-- A description of figures. -/
def Stats.describe (stats : Stats) : String :=
  "RuleStats \x7b generation: " ++ toString stats.generation ++
    ", global_params: " ++ toString stats.globalRules ++
    ", url_rules: " ++ toString stats.scopes ++
    ", indexed_params: " ++ toString stats.names ++
    ", cached_matchers: " ++ toString stats.keptGlobs ++ " \x7d"

/-- A description of the gate. -/
def describe (gate : Gate) : String :=
  "ParamGuard \x7b config: " ++ gate.limits.describe ++ ", stats: " ++ gate.stats.describe ++
    ", plugins: " ++ Text.quotedList gate.pluginNames ++
    ", initialized: " ++ toString gate.isOpen ++ " \x7d"

/-- What a kept generation says about a name on a path. -/
structure Inspection where
  /-- The number of the generation. -/
  generation : Nat
  /-- Whether every parameter is accepted on the path. -/
  acceptsAll : Bool
  /-- The rule that governs the name. -/
  rule : Option Rule

/-- Asks a generation about a name on a path. -/
def inspect (generation : Generation) (path name : String) : Lookup Inspection := do
  let coverage ← generation.coverage path
  let rule ← generation.ruleFor coverage path name
  return ⟨generation.number, generation.acceptsAll coverage, rule⟩

/-- Asks a generation that was in force earlier. Only the one still in force shares the gate's kept
expressions. -/
def inspectKept (gate : Gate) (kept : Generation) (path name : String) : Inspection × Gate :=
  if kept.number = gate.rules.number then gate.lookup (inspect kept path name)
  else (((inspect kept path name).run (.empty gate.limits.matcherCacheSize)).1, gate)

end Gate

end QueryGate
