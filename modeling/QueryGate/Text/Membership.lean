/-!
# Sets of code points given by their boundaries

A set of code points is written as the ascending list of points at which membership changes:
the first point opens a range, the second is the first point past it, the third opens the next
range, and so on.
-/

namespace QueryGate.Text

/-- Whether `n` lies in the set with these boundaries: an odd number of them is at most `n`. -/
def within (boundaries : List Nat) (n : Nat) : Bool :=
  match boundaries with
  | [] => false
  | b :: rest => decide (b ≤ n) && !within rest n

/-- The ranges of the set with these boundaries, both ends included. A range that is still open at
the end of the list goes up to `last`. -/
def rangesOfBoundaries (last : Nat) : List Nat → List (Nat × Nat)
  | first :: past :: rest => (first, past - 1) :: rangesOfBoundaries last rest
  | [first] => [(first, last)]
  | [] => []

end QueryGate.Text
