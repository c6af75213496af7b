import QueryGate.Regex.ByteRange

/-!
# Laying out sets and literals

An expression is laid out as a program over bytes, state after state. A state takes a fixed number
of bytes, and more for every transition or alternative it holds. Only this size is kept, together
with the number of states, which is the number of the state that comes next.

A set of characters becomes a tree over the bytes of their encodings. Forwards, nodes that are
alike are laid out once; backwards, the characters that share the bytes before some point share
the states for them. What was laid out before is looked up in a table with a fixed number of
slots, in which a slot keeps the latest entry only.
-/

namespace QueryGate.Regex

/-- How much of a program has been laid out. -/
structure Layout where
  /-- The number of states. -/
  states : Nat
  /-- The bytes that their transitions and alternatives take. -/
  payload : Nat
  deriving DecidableEq, Repr

namespace Layout

/-- Nothing laid out yet. -/
def start : Layout :=
  ⟨0, 0⟩

/-- The bytes of a state alone. -/
def stateBytes : Nat := 32

/-- The bytes of a transition. -/
def transitionBytes : Nat := 8

/-- The bytes of an alternative. -/
def alternativeBytes : Nat := 4

/-- The size of what has been laid out. -/
def bytes (layout : Layout) : Nat :=
  stateBytes * layout.states + layout.payload

/-- Adds states, and what they hold in bytes. -/
def add (layout : Layout) (states payload : Nat) : Layout :=
  ⟨layout.states + states, layout.payload + payload⟩

end Layout

/-- What was laid out before: the slot, the description and the number of a state, the latest
first. -/
abbrev Memo (κ : Type) := List (Nat × κ × Nat)

/-- The state with a description, if the latest entry of the slot is about it. -/
def Memo.find? {κ : Type} [DecidableEq κ] (memo : Memo κ) (slot : Nat) (key : κ) : Option Nat :=
  match List.find? (fun entry => entry.1 == slot) memo with
  | some (_, key', state) => if key' = key then some state else none
  | none => none

/-- A number that scatters lists of numbers: each of them is mixed in by an exclusive or and a
product, in 64 bits. -/
def scatter (ns : List Nat) : Nat :=
  (ns.foldl (fun (h : UInt64) n => (h ^^^ n.toUInt64) * 1099511628211) 14695981039346656037).toNat

/-- A layout in which states are shared. -/
structure SharedLayout (κ : Type) where
  /-- What has been laid out. -/
  layout : Layout
  /-- The states that may be shared. -/
  memo : Memo κ

/-- The state with a description, which is laid out unless the table knows it. -/
def SharedLayout.state {κ : Type} [DecidableEq κ] (shared : SharedLayout κ) (slot : Nat) (key : κ)
    (payload : Nat) : Nat × SharedLayout κ :=
  match shared.memo.find? slot key with
  | some state => (state, shared)
  | none =>
    let state := shared.layout.states
    (state, ⟨shared.layout.add 1 payload, (slot, key, state) :: shared.memo⟩)

/-- Lists grouped by their heads: each head with the tails that follow it. -/
def groupByHead {κ : Type} [DecidableEq κ] : List (List κ) → List (κ × List (List κ))
  | [] => []
  | [] :: rest => groupByHead rest
  | (x :: tail) :: rest =>
    let groups := groupByHead rest
    if groups.any fun group => group.1 = x then
      groups.map fun group => if group.1 = x then (x, tail :: group.2) else group
    else (x, [tail]) :: groups

/-- A byte range and the state behind it. -/
abbrev Transition := ByteRange × Nat

/-- The number of slots for the nodes of a tree. -/
def nodeSlots : Nat := 10000

/-- The node with some transitions. -/
def SharedLayout.node (shared : SharedLayout (List Transition)) (transitions : List Transition) :
    Nat × SharedLayout (List Transition) :=
  let slot := scatter (transitions.flatMap fun ((lo, hi), next) => [lo, hi, next]) % nodeSlots
  shared.state slot transitions (Layout.transitionBytes * transitions.length)

/-- The tree of byte sequences with at most `levels` bytes, which all lead to `target`. -/
def SharedLayout.tree (target : Nat) : Nat → List (List ByteRange) →
    SharedLayout (List Transition) → Nat × SharedLayout (List Transition)
  | 0, _, shared => (target, shared)
  | levels + 1, sequences, shared =>
    if sequences.all List.isEmpty then (target, shared)
    else
      let (transitions, shared) := (groupByHead sequences).foldl
        (fun (transitions, shared) (range, tails) =>
          let (next, shared) := tree target levels tails shared
          (transitions ++ [(range, next)], shared))
        ([], shared)
      shared.node transitions

/-- The number of slots for states that lead on to another one. -/
def linkSlots : Nat := 1000

/-- The state that takes a byte of a range and leads on to another state. -/
def SharedLayout.link (shared : SharedLayout (Nat × ByteRange)) (next : Nat) (range : ByteRange) :
    Nat × SharedLayout (Nat × ByteRange) :=
  shared.state (scatter [next, range.1, range.2] % linkSlots) (next, range) 0

/-- The chain of states for a byte sequence that is read backwards, as an alternative. -/
def SharedLayout.chain (target : Nat) (shared : SharedLayout (Nat × ByteRange))
    (ranges : List ByteRange) : SharedLayout (Nat × ByteRange) :=
  let (_, shared) := ranges.foldl (fun (next, shared) range => shared.link next range)
    (target, shared)
  { shared with layout := shared.layout.add 0 Layout.alternativeBytes }

/-- The direction in which a program reads a text. -/
inductive Direction where
  /-- From its start. -/
  | forward
  /-- From its end. -/
  | backward
  deriving DecidableEq, Repr

/-- Lays a set out. -/
def Layout.addSet (direction : Direction) (s : CharSet) (layout : Layout) : Layout :=
  if s.isAscii then layout.add 2 (transitionBytes * s.ranges.length)
  else
    let sequences := s.ranges.flatMap byteSequences
    match direction with
    | .forward =>
      (SharedLayout.tree layout.states 4 sequences ⟨layout.add 1 0, []⟩).2.layout
    | .backward =>
      (sequences.foldl (SharedLayout.chain (layout.states + 1)) ⟨layout.add 2 0, []⟩).layout

/-- Texts cut apart wherever one of them is empty. -/
def splitAtEmpty : List (List Nat) → List (List (List Nat))
  | [] => [[]]
  | [] :: rest => [] :: splitAtEmpty rest
  | text :: rest =>
    match splitAtEmpty rest with
    | [] => [[text]]
    | chunk :: chunks => (text :: chunk) :: chunks

/-- Leaves only one of several empty texts at the front. -/
def mergeLeadingEmpty (texts : List (List Nat)) : List (List Nat) :=
  match texts with
  | [] :: rest => [] :: rest.dropWhile List.isEmpty
  | _ => texts

/-- Lays out the tree of texts of at most `levels` bytes, of which an earlier one is preferred to a
later one. Texts may share states only with texts that no empty one separates from them. -/
def Layout.addTexts : Nat → List (List Nat) → Layout → Layout
  | 0, _, layout => layout
  | levels + 1, texts, layout =>
    if texts.all List.isEmpty then layout
    else
      let chunks := (splitAtEmpty (mergeLeadingEmpty texts)).map groupByHead
      let filled := chunks.filter fun groups => !groups.isEmpty
      let layout := filled.foldl
        (fun layout groups =>
          let payload := if groups.length = 1 then 0 else transitionBytes * groups.length
          groups.foldl (fun layout group => addTexts levels group.2 layout) (layout.add 1 payload))
        layout
      layout.add 1 (alternativeBytes * (filled.length + (chunks.length - 1)))

end QueryGate.Regex
