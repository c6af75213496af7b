import QueryGate.Plugin.Compare
import QueryGate.Plugin.Expression
import QueryGate.Plugin.Length
import QueryGate.Plugin.Range

/-!
# The built-in plugins

The plugins that a gate has unless it is given others, in the order in which they are asked.
-/

namespace QueryGate.Plugin

/-- The built-in plugins. -/
def builtin : List Plugin :=
  [range, length, compare, pattern, regex]

end QueryGate.Plugin
