import QueryGate.Regex.Basic
import QueryGate.Text.Bits

/-!
# Matching by sets of positions

A position of a text of `n` characters is a number from `0` to `n`, and a set of positions is the
natural number whose bits they are. An expression is first laid over the text, which turns every
step and every assertion into the set of positions at which it can be taken. The positions
reachable from a set of positions are then found by following the expression once; a repetition
is followed until nothing new is met, which takes at most one round for every position.
-/

namespace QueryGate.Regex

open QueryGate.Text

/-- The positions of `cs` whose character belongs to the set. -/
def CharSet.positions (set : CharSet) (cs : List Char) : Nat :=
  bitsWhere set.contains cs

/-- Whether the assertion holds, for every position of `cs` in order, when `before` precedes the
text. -/
def Assertion.truths (a : Assertion) (before : Option Char) : List Char → List Bool
  | [] => [a.holds before none]
  | c :: cs => a.holds before (some c) :: a.truths (some c) cs

/-- The positions of `cs` at which the assertion holds, when `before` precedes the text. -/
def Assertion.positions (a : Assertion) (before : Option Char) (cs : List Char) : Nat :=
  bitsWhere id (a.truths before cs)

/-- An expression laid over a text. -/
inductive Located where
  /-- Stays where it is, at one of the positions. -/
  | stay (positions : Nat)
  /-- Moves one position on, from one of the positions. -/
  | move (positions : Nat)
  /-- One part after the other. -/
  | sequence (r s : Located)
  /-- One part or the other. -/
  | either (r s : Located)
  /-- At least `least` rounds and, if there is a limit, at most `most` rounds. -/
  | repeated (r : Located) (least : Nat) (most : Option Nat)
  deriving DecidableEq, Repr

/-- The set of all positions of a text of `n` characters. -/
def allPositions (n : Nat) : Nat :=
  Nat.pow 2 (n + 1) - 1

/-- Lays an expression over a text. -/
def locate (cs : List Char) : Regex → Located
  | empty => .stay (allPositions cs.length)
  | step set => .move (set.positions cs)
  | assertion a => .stay (a.positions none cs)
  | sequence r s => .sequence (locate cs r) (locate cs s)
  | either r s => .either (locate cs r) (locate cs s)
  | repeated r least most => .repeated (locate cs r) least most

/-- How many sets have their positions kept in a table. -/
def tableSize : Nat := 100

/-- The sets of the steps of an expression together with others, each of them once, as long as a
table has room for them. -/
def stepSets (sets : List CharSet) : Regex → List CharSet
  | empty => sets
  | step set => if sets.contains set || tableSize ≤ sets.length then sets else set :: sets
  | assertion _ => sets
  | sequence r s => stepSets (stepSets sets r) s
  | either r s => stepSets (stepSets sets r) s
  | repeated r _ _ => stepSets sets r

/-- Sets with their positions in a text. -/
abbrev PositionTable := List (CharSet × Nat)

/-- The positions of a set, from the table if it is there. -/
def CharSet.positionsIn (set : CharSet) (cs : List Char) (table : PositionTable) : Nat :=
  match table.find? fun entry => entry.1 == set with
  | some entry => entry.2
  | none => set.positions cs

/-- Lays an expression over a text with the help of a table, so that steps with the same set go
through the text once only. -/
def locateIn (table : PositionTable) (cs : List Char) : Regex → Located
  | empty => .stay (allPositions cs.length)
  | step set => .move (set.positionsIn cs table)
  | assertion a => .stay (a.positions none cs)
  | sequence r s => .sequence (locateIn table cs r) (locateIn table cs s)
  | either r s => .either (locateIn table cs r) (locateIn table cs s)
  | repeated r least most => .repeated (locateIn table cs r) least most

/-- The table for sets and a text. -/
def positionTable (cs : List Char) (sets : List CharSet) : PositionTable :=
  sets.map fun set => (set, set.positions cs)

/-- The table holds the positions that the set has. -/
theorem positionsIn_positionTable (set : CharSet) (cs : List Char) (sets : List CharSet) :
    set.positionsIn cs (positionTable cs sets) = set.positions cs := by
  rw [CharSet.positionsIn]
  split
  · next entry found =>
    have same : entry.1 = set := by simpa using List.find?_some found
    obtain ⟨set', _, rfl⟩ := List.mem_map.mp (List.mem_of_find?_eq_some found)
    simp_all
  · rfl

/-- The help of the table changes nothing about where an expression lies. -/
theorem locateIn_positionTable (cs : List Char) (sets : List CharSet) (r : Regex) :
    locateIn (positionTable cs sets) cs r = locate cs r := by
  induction r with
  | empty => rfl
  | step set => simp [locateIn, locate, positionsIn_positionTable]
  | assertion a => rfl
  | sequence r s ihr ihs => simp [locateIn, locate, ihr, ihs]
  | either r s ihr ihs => simp [locateIn, locate, ihr, ihs]
  | repeated r least most ih => simp [locateIn, locate, ih]

/-- What is reached from `start` in exactly `n` rounds; a round that changes nothing is the last
one followed. -/
def exactly (round : Nat → Nat) : Nat → Nat → Nat
  | 0, start => start
  | n + 1, start =>
    let reached := round start
    if reached = start then start else exactly round n reached

/-- The positions met and what is reached from `latest`, which are among them, in at most `n`
rounds. A round starts only from what the round before met for the first time, and one that meets
nothing new is the last one followed. -/
def atMost (round : Nat → Nat) : Nat → Nat → Nat → Nat
  | 0, _, met => met
  | n + 1, latest, met =>
    let reached := round latest
    let found := reached ^^^ (reached &&& met)
    if found = 0 then met else atMost round n found (met ||| found)

/-- The positions reached from a set of positions of a text of `n` characters. Rounds without an
upper limit meet everything there is to meet after as many rounds as there are positions. -/
def Located.reach (n : Nat) : Located → Nat → Nat
  | stay positions, start => start &&& positions
  | move positions, start => (start &&& positions) <<< 1
  | sequence r s, start => s.reach n (r.reach n start)
  | either r s, start => r.reach n start ||| s.reach n start
  | repeated r least most, start =>
    let first := exactly (r.reach n) least start
    let more := match most with
      | some most => most - least
      | none => n + 1
    atMost (r.reach n) more first first

/-- Whether the expression matches somewhere in the text. -/
def search (r : Regex) (text : String) : Bool :=
  let cs := text.toList
  let located := locateIn (positionTable cs (stepSets [] r)) cs r
  located.reach cs.length (allPositions cs.length) != 0

/-- An expression matches somewhere if it leads from some position to some position. -/
theorem search_eq (r : Regex) (text : String) :
    r.search text =
      ((locate text.toList r).reach text.length (allPositions text.length) != 0) := by
  simp only [search, locateIn_positionTable, String.length_toList]

/-- Whether the expression matches the whole text. -/
def matchesWhole (r : Regex) (text : String) : Bool :=
  let cs := text.toList
  ((locate cs r).reach cs.length 1).testBit cs.length

end QueryGate.Regex
