import QueryGate.Query.SegmentSpan
import QueryGate.Text.Utf8

/-!
# Slots of parameter names

Every parameter name of a generation has a slot, a number counted from zero in the order in which
the names were first met. The names are distinct, so a slot and its name determine each other.
-/

namespace QueryGate

/-- The names that have slots, in the order of their slots. -/
structure NameIndex where
  /-- The names. -/
  names : List String
  /-- No name has two slots. -/
  nodup : names.Nodup
  deriving DecidableEq, Repr

namespace NameIndex

/-- The index without names. -/
def empty : NameIndex :=
  ⟨[], List.nodup_nil⟩

/-- The number of slots. -/
def size (index : NameIndex) : Nat :=
  index.names.length

/-- The slot of a name. -/
def slot? (index : NameIndex) (name : String) : Option Nat :=
  index.names.idxOf? name

/-- The name of a slot. -/
def name? (index : NameIndex) (slot : Nat) : Option String :=
  index.names[slot]?

/-- The slot of the name that a range of a buffer encodes. -/
def slotOfBytes? (index : NameIndex) (buf : List UInt8) (start stop : Nat) : Option Nat := do
  index.slot? (← Text.ofBytes? (← Query.slice? buf start stop))

/-- The index in which the name has a slot: the next one, if it had none. -/
def insert (index : NameIndex) (name : String) : NameIndex :=
  if h : name ∈ index.names then index
  else ⟨index.names ++ [name], by
    rw [List.nodup_append]
    exact ⟨index.nodup, by simp, by simp; intro a ha hn; exact h (hn ▸ ha)⟩⟩

/-- Gives a name a slot and says which one it has. -/
def intern (index : NameIndex) (name : String) : Nat × NameIndex :=
  ((index.slot? name).getD index.size, index.insert name)

end NameIndex

end QueryGate
