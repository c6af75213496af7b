/-!
# Bits as a number

The items of a list that have some property are told by a number: its lowest binary digit is
about the first item, the next one about the second, and so on. The digits are gathered in words
before they join the number, so a long list takes few steps on large numbers.
-/

namespace QueryGate.Text

/-- What the lowest bit behind a full word counts for. -/
def wordSize : Nat := Nat.pow 2 32

/-- A word, followed by the bits of the items, the first of which counts for `weight`. -/
@[specialize]
def gatherBits {α : Type} (p : α → Bool) : List α → Nat → Nat → Nat
  | [], _, word => word
  | x :: xs, weight, word =>
    let word := if p x then word + weight else word
    if weight + weight = wordSize then word + wordSize * gatherBits p xs 1 0
    else gatherBits p xs (weight + weight) word

/-- The number with a bit for every item, which is set if the item has the property. -/
@[specialize]
def bitsWhere {α : Type} (p : α → Bool) (xs : List α) : Nat :=
  gatherBits p xs 1 0

/-- The bits of the items count for as much as the weight says. -/
theorem gatherBits_eq {α : Type} (p : α → Bool) (xs : List α) (weight word : Nat) :
    gatherBits p xs weight word = word + weight * bitsWhere p xs := by
  have weighed : ∀ (xs : List α) (weight word : Nat),
      gatherBits p xs weight word =
        word + weight * xs.foldr (fun x n => 2 * n + (p x).toNat) 0 := by
    intro xs
    induction xs with
    | nil => simp [gatherBits]
    | cons x xs ih =>
      intro weight word
      have double (n : Nat) : weight * (2 * n) = (weight + weight) * n := by
        rw [← Nat.mul_assoc, Nat.mul_two]
      simp only [gatherBits, ih, List.foldr_cons, Nat.mul_add, double]
      split
      · next full => cases p x <;> simp [full, Nat.add_assoc, Nat.add_comm, Nat.add_left_comm]
      · cases p x <;> simp [Nat.add_assoc, Nat.add_comm, Nat.add_left_comm]
  rw [bitsWhere, weighed, weighed]
  simp

/-- No items have no bits. -/
theorem bitsWhere_nil {α : Type} (p : α → Bool) : bitsWhere p [] = 0 :=
  rfl

/-- The lowest bit is about the first item, and half of the number is about the others. -/
theorem bitsWhere_cons {α : Type} (p : α → Bool) (x : α) (xs : List α) :
    bitsWhere p (x :: xs) = 2 * bitsWhere p xs + (p x).toNat := by
  have two : (1 : Nat) + 1 ≠ wordSize := by decide
  rw [bitsWhere, gatherBits, if_neg two, gatherBits_eq]
  cases p x <;> simp [Nat.add_comm]

end QueryGate.Text
