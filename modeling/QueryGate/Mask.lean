/-!
# Masks over slots

A mask is a set of slots below its width, kept in words of 64 bits. Slots are set and tested only
below the width, while counting and emptiness look at whole words. Masks of different widths are
combined in the words they share, and the result has the width of the first.
-/

namespace QueryGate

/-- The number of bits in a word. -/
def wordBits : Nat := 64

/-- A set of slots below a width. -/
structure Mask where
  /-- The number of slots. -/
  width : Nat
  /-- The bits of the slots, those of the first 64 slots in the first word. -/
  words : List (BitVec wordBits)
  deriving DecidableEq, Repr

namespace Mask

/-- The empty mask of a width. -/
def empty (width : Nat) : Mask :=
  ⟨width, List.replicate ((width + wordBits - 1) / wordBits) 0⟩

/-- The mask with a slot added; a slot at or beyond the width is ignored. -/
def set (mask : Mask) (slot : Nat) : Mask :=
  if slot < mask.width then
    let bit := BitVec.twoPow wordBits (slot % wordBits)
    { mask with words := mask.words.modify (slot / wordBits) (· ||| bit) }
  else mask

/-- Whether a slot is in the mask; one at or beyond the width is not. -/
def get (mask : Mask) (slot : Nat) : Bool :=
  decide (slot < mask.width) &&
    (mask.words[slot / wordBits]?).any fun word => word.getLsbD (slot % wordBits)

/-- Combines the words that two lists share and keeps the others of the first. -/
def combine (f : BitVec wordBits → BitVec wordBits → BitVec wordBits) :
    List (BitVec wordBits) → List (BitVec wordBits) → List (BitVec wordBits)
  | a :: as, b :: bs => f a b :: combine f as bs
  | as, _ => as

/-- The slots of either mask. -/
def union (a b : Mask) : Mask :=
  { a with words := combine (· ||| ·) a.words b.words }

/-- The slots of `a` that are not in `b`. -/
def difference (a b : Mask) : Mask :=
  { a with words := combine (fun x y => x &&& ~~~y) a.words b.words }

/-- Whether no bit is set. -/
def isEmpty (mask : Mask) : Bool :=
  mask.words.all (· == 0)

/-- The number of bits set in a word. -/
def wordCount (word : BitVec wordBits) : Nat :=
  (List.range wordBits).countP word.getLsbD

/-- The number of bits set. -/
def count (mask : Mask) : Nat :=
  mask.words.foldr (fun word total => wordCount word + total) 0

/-- The slots of the mask in ascending order. -/
def slots (mask : Mask) : List Nat :=
  (List.range mask.width).filter mask.get

end Mask

end QueryGate
