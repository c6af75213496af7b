import QueryGate.Regex.Layout
import QueryGate.Regex.Plan

/-!
# Sizes of programs

The size of the program that a plan is laid out as. Counted repetitions are written out round by
round, so a short expression may come to a large program; laying out stops as soon as the size
passes a limit. There is a program for either direction, and a plan fits when both do.
-/

namespace QueryGate.Regex

namespace Plan

mutual

/-- Whether the last state of the plan holds alternatives, so that what follows becomes one. -/
def endsInAlternatives (direction : Direction) : Plan → Bool
  | repeated r least most _ =>
    match least, most with
    | 0, none => r.minLength.any (0 < ·)
    | _ + 1, none => true
    | least, some most => least == most && r.endsInAlternatives direction
  | group _ r =>
    match direction with
    | .forward => false
    | .backward => r.endsInAlternatives direction
  | sequence rs =>
    match direction with
    | .forward => lastEndsInAlternatives direction rs
    | .backward => firstEndsInAlternatives direction rs
  | _ => false

/-- Whether the last state of the last plan holds alternatives. -/
def lastEndsInAlternatives (direction : Direction) : List Plan → Bool
  | [] => false
  | [r] => r.endsInAlternatives direction
  | _ :: rs => lastEndsInAlternatives direction rs

/-- Whether the last state of the first plan holds alternatives. -/
def firstEndsInAlternatives (direction : Direction) : List Plan → Bool
  | [] => false
  | r :: _ => r.endsInAlternatives direction

end

/-- The bytes that it takes to lead from the last state of the plan to what follows. -/
def joinBytes (direction : Direction) (r : Plan) : Nat :=
  if r.endsInAlternatives direction then Layout.alternativeBytes else 0

/-- The text of a literal. -/
def text? : Plan → Option (List Char)
  | literal cs => some cs
  | _ => none

/-- The bytes of a text in the order in which they are read. -/
def bytesInOrder (direction : Direction) (cs : List Char) : List Nat :=
  let bytes := cs.flatMap fun c => utf8Encode c.toNat
  match direction with
  | .forward => bytes
  | .backward => bytes.reverse

/-- The layout after a number of rounds, as long as it stays within the limit. -/
def rounds (limit : Nat) (round : Layout → Option Layout) : Nat → Layout → Option Layout
  | 0, layout => some layout
  | n + 1, layout => do
    let layout ← round layout
    if layout.bytes ≤ limit then rounds limit round n layout else none

mutual

/-- Lays a plan out, unless its repetitions pass the limit. -/
def layOut (direction : Direction) (limit : Nat) : Plan → Layout → Option Layout
  | empty, layout => some (layout.add 1 0)
  | literal cs, layout => some (layout.add (bytesInOrder direction cs).length 0)
  | set s _, layout => some (layout.addSet direction s)
  | assertion _, layout => some (layout.add 1 0)
  | group _ r, layout =>
    match direction with
    | .forward => do
      return (← r.layOut direction limit (layout.add 1 0)).add 1 (r.joinBytes direction)
    | .backward => r.layOut direction limit layout
  | sequence rs, layout => layOutAll direction limit rs layout
  | choice rs, layout =>
    match rs.mapM text? with
    | some texts =>
      let texts := texts.map (bytesInOrder direction)
      let levels := (texts.map List.length).foldl max 0
      some ((layout.add 1 0).addTexts (levels + 1) texts)
    | none => layOutBranches direction limit 0 rs layout
  | repeated r least most _, layout =>
    let join := r.joinBytes direction
    let once (layout : Layout) : Option Layout := do
      return (← r.layOut direction limit layout).add 0 join
    match least, most with
    | 0, some 1 => do
      return (← once (layout.add 1 0)).add 1 (2 * Layout.alternativeBytes)
    | 0, none =>
      if r.minLength.any (0 < ·) then do
        return (← once (layout.add 1 0)).add 0 Layout.alternativeBytes
      else do
        return (← once layout).add 3 (4 * Layout.alternativeBytes)
    | least + 1, none => do
      return (← rounds limit once (least + 1) layout).add 1 Layout.alternativeBytes
    | least, some most =>
      if least = most then do
        r.layOut direction limit (← rounds limit once (least - 1) layout)
      else do
        let layout ← rounds limit once least (if least = 0 then layout.add 1 0 else layout)
        let optional (layout : Layout) : Option Layout :=
          once (layout.add 1 (2 * Layout.alternativeBytes))
        rounds limit optional (most - least) (layout.add 1 0)

/-- Lays plans out one after the other, in the order in which they are read. -/
def layOutAll (direction : Direction) (limit : Nat) : List Plan → Layout → Option Layout
  | [], layout => some layout
  | r :: rs, layout =>
    match direction with
    | .forward => do
      let layout ← r.layOut direction limit layout
      layOutAll direction limit rs
        (if rs.isEmpty then layout else layout.add 0 (r.joinBytes direction))
    | .backward => do
      let layout ← layOutAll direction limit rs layout
      let join := if firstEndsInAlternatives direction rs then Layout.alternativeBytes else 0
      r.layOut direction limit (layout.add 0 join)

/-- Lays branches out after `laid` others. The state that holds the alternatives and the one in
which they meet follow the second branch. -/
def layOutBranches (direction : Direction) (limit laid : Nat) :
    List Plan → Layout → Option Layout
  | [], layout => some layout
  | r :: rs, layout => do
    let layout ← r.layOut direction limit layout
    let layout := layout.add 0 (Layout.alternativeBytes + r.joinBytes direction)
    layOutBranches direction limit (laid + 1) rs (if laid = 1 then layout.add 2 0 else layout)

end

/-- What stands in front of a program: a state to start from or, where a match may start anywhere,
a loop over any byte. -/
def front (fixed : Bool) : Layout :=
  if fixed then Layout.start.add 1 0
  else Layout.start.add 3 (Layout.transitionBytes + 2 * Layout.alternativeBytes)

/-- The program of a plan. Forwards, the whole match is remembered like a group. -/
def program (direction : Direction) (limit : Nat) (r : Plan) : Option Layout :=
  match direction with
  | .forward => do
    let layout ← r.layOut direction limit ((front r.startsAtStart).add 1 0)
    return layout.add 2 (r.joinBytes direction)
  | .backward => do
    let layout ← r.layOut direction limit (front r.endsAtEnd)
    return layout.add 1 (r.joinBytes direction)

/-- Whether the programs of the plan for both directions stay within a limit. -/
def fits (limit : Nat) (r : Plan) : Bool :=
  [Direction.forward, .backward].all fun direction =>
    (r.program direction limit).any fun layout => layout.bytes ≤ limit

end Plan

end QueryGate.Regex
