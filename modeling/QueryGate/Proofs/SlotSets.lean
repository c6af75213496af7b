import Mathlib.Data.Finset.Card
import Mathlib.Data.Finset.Range
import Mathlib.Data.Finset.SDiff
import QueryGate.Proofs.Mask

/-!
# Masks and finite sets

A mask that is built from the empty one by adding slots and by combining it with other masks of its
width stands for a finite set of slots below the width, and for each such set there is no second
mask. Testing, listing, counting and asking for emptiness are questions about this set, although the
last two look at whole words: no bit is ever stored at or beyond the width.
-/

namespace QueryGate.Mask

/-- The slots of a mask as a finite set. -/
def members (mask : Mask) : Finset Nat :=
  (Finset.range mask.width).filter fun slot => mask.get slot = true

/-- The masks of a width that come from the empty one. -/
inductive Built (width : Nat) : Mask → Prop
  /-- The empty mask. -/
  | empty : Built width (Mask.empty width)
  /-- A mask with any slot added, also one at or beyond the width. -/
  | set {mask : Mask} (h : Built width mask) (slot : Nat) : Built width (mask.set slot)
  /-- The union of two masks. -/
  | union {a b : Mask} (ha : Built width a) (hb : Built width b) : Built width (a.union b)
  /-- The difference of two masks. -/
  | difference {a b : Mask} (ha : Built width a) (hb : Built width b) :
      Built width (a.difference b)

variable {width : Nat} {mask a b : Mask}

/-! ## Differences -/

/-- The bits of the words from which a difference is made. -/
theorem getLsbD_difference (x y : BitVec wordBits) (offset : Nat) (h : offset < wordBits) :
    (x &&& ~~~y).getLsbD offset = (x.getLsbD offset && !y.getLsbD offset) := by
  rw [BitVec.getLsbD_and, BitVec.getLsbD_not, decide_eq_true h, Bool.true_and]

/-- A difference of representations of sets is one. -/
theorem Fits.difference (ha : a.Fits width) (hb : b.Fits width) : (a.difference b).Fits width :=
  ha.combine (g := fun x y => x && !y) hb rfl getLsbD_difference

/-- A difference holds exactly the slots of the first mask that are not in the second. -/
theorem Fits.get_difference (ha : a.Fits width) (hb : b.Fits width) (slot : Nat) :
    (a.difference b).get slot = (a.get slot && !b.get slot) := by
  rw [(ha.difference hb).get_eq_bit, ha.get_eq_bit, hb.get_eq_bit]
  exact ha.bit_combine (g := fun x y => x && !y) hb rfl getLsbD_difference slot

/-- Every mask that is built represents a set. -/
theorem Built.fits (h : Built width mask) : mask.Fits width := by
  induction h with
  | empty => exact fits_empty width
  | set _ slot ih => exact ih.set slot
  | union _ _ iha ihb => exact iha.union ihb
  | difference _ _ iha ihb => exact iha.difference ihb

/-! ## Members -/

/-- The members of a mask are the slots that the test finds in it. -/
theorem mem_members_iff {slot : Nat} : slot ∈ mask.members ↔ mask.get slot = true := by
  unfold members
  rw [Finset.mem_filter, Finset.mem_range, and_iff_right_iff_imp, get_eq, Bool.and_eq_true,
    decide_eq_true_iff]
  exact And.left

/-- The members of a mask lie below its width. -/
theorem members_subset (mask : Mask) : mask.members ⊆ Finset.range mask.width :=
  Finset.filter_subset _ _

/-- The empty mask has no members. -/
theorem members_empty (width : Nat) : (Mask.empty width).members = ∅ := by
  ext slot
  rw [mem_members_iff, get_empty]
  simp

/-- Adding a slot adds it to the members, if it lies below the width. -/
theorem Fits.members_set (h : mask.Fits width) (slot : Nat) :
    (mask.set slot).members = if slot < width then insert slot mask.members else mask.members := by
  ext other
  rw [mem_members_iff, h.get_set, Bool.or_eq_true, decide_eq_true_iff]
  split
  · next hs => rw [Finset.mem_insert, mem_members_iff, and_iff_left hs, or_comm]
  · next hs => rw [mem_members_iff, or_iff_left fun hadded => hs hadded.2]

/-- The members of a union are those of either mask. -/
theorem Fits.members_union (ha : a.Fits width) (hb : b.Fits width) :
    (a.union b).members = a.members ∪ b.members := by
  ext slot
  rw [Finset.mem_union, mem_members_iff, mem_members_iff, mem_members_iff, ha.get_union hb,
    Bool.or_eq_true]

/-- The members of a difference are those of the first mask but not of the second. -/
theorem Fits.members_difference (ha : a.Fits width) (hb : b.Fits width) :
    (a.difference b).members = a.members \ b.members := by
  ext slot
  rw [Finset.mem_sdiff, mem_members_iff, mem_members_iff, mem_members_iff, ha.get_difference hb,
    Bool.and_eq_true, Bool.not_eq_true', Bool.not_eq_true]

/-- The members of a mask are listed in ascending order. -/
theorem pairwise_slots (mask : Mask) : mask.slots.Pairwise (· < ·) :=
  List.pairwise_lt_range.filter mask.get

/-- Exactly the members of a mask are listed. -/
theorem mem_slots_iff {slot : Nat} : slot ∈ mask.slots ↔ slot ∈ mask.members := by
  unfold slots members
  rw [List.mem_filter, List.mem_range, Finset.mem_filter, Finset.mem_range]

/-- A mask has as many members as are listed. -/
theorem card_members (mask : Mask) : mask.members.card = mask.slots.length := by
  have hmembers : mask.members = mask.slots.toFinset := by
    ext slot
    rw [List.mem_toFinset, mem_slots_iff]
  rw [hmembers, List.toFinset_card_of_nodup (mask.pairwise_slots.imp Nat.ne_of_lt)]

/-- No bit of a mask is set exactly if it has no members. -/
theorem Fits.isEmpty_iff_members (h : mask.Fits width) :
    mask.isEmpty = true ↔ mask.members = ∅ := by
  rw [h.isEmpty_iff, Finset.eq_empty_iff_forall_notMem]
  simp only [mem_members_iff, Bool.not_eq_true]

/-- A bit that is stored belongs to a slot below the width. -/
theorem Fits.lt_of_getLsbD (h : mask.Fits width) {place offset : Nat}
    (hplace : place < mask.words.length) (hbit : mask.words[place].getLsbD offset = true) :
    place * wordBits + offset < width := by
  have hoffset : offset < wordBits := BitVec.lt_of_getLsbD hbit
  rw [← mask.bit_of_place hplace hoffset] at hbit
  by_contra hbeyond
  rw [h.padding _ (by omega)] at hbit
  cases hbit

/-! ## Counting -/

/-- The bits of words are counted slot by slot. -/
theorem foldr_wordCount (words : List (BitVec wordBits)) :
    words.foldr (fun word total => wordCount word + total) 0 =
      (List.range (wordBits * words.length)).countP fun slot =>
        (words[slot / wordBits]?).any fun word => word.getLsbD (slot % wordBits) := by
  induction words with
  | nil => rfl
  | cons word words ih =>
    have hpos : 0 < wordBits := by decide
    have hfirst : (List.range wordBits).countP (fun slot =>
        ((word :: words)[slot / wordBits]?).any fun word => word.getLsbD (slot % wordBits)) =
          wordCount word := by
      refine List.countP_congr fun slot hslot => ?_
      rw [List.mem_range] at hslot
      rw [Nat.div_eq_of_lt hslot, Nat.mod_eq_of_lt hslot]
      rfl
    have hothers : (List.range (wordBits * words.length)).countP ((fun slot =>
        ((word :: words)[slot / wordBits]?).any fun word => word.getLsbD (slot % wordBits)) ∘
          (wordBits + ·)) = words.foldr (fun word total => wordCount word + total) 0 := by
      rw [ih]
      refine List.countP_congr fun slot _ => ?_
      rw [Function.comp_apply, Nat.add_div_left _ hpos, Nat.add_mod_left, List.getElem?_cons_succ]
    rw [List.length_cons, Nat.mul_succ, Nat.add_comm, List.range_add, List.countP_append,
      List.countP_map, hfirst, hothers]
    rfl

/-- A mask counts its members. -/
theorem Fits.count_eq (h : mask.Fits width) : mask.count = mask.members.card := by
  -- The words go on behind the width, but no bit is set there.
  obtain ⟨more, hmore⟩ : ∃ more, wordBits * mask.words.length = width + more := by
    refine Nat.exists_eq_add_of_le ?_
    rw [h.length_eq]
    unfold wordBits
    omega
  have hbelow : (List.range width).countP mask.bit = mask.slots.length := by
    unfold slots
    rw [← List.countP_eq_length_filter, h.width_eq]
    exact List.countP_congr fun slot _ => by rw [h.get_eq_bit]
  have hbeyond : (List.range more).countP (mask.bit ∘ (width + ·)) = 0 := by
    refine List.countP_eq_zero.mpr fun slot _ => ?_
    rw [Function.comp_apply, h.padding _ (Nat.le_add_right width slot)]
    exact Bool.false_ne_true
  unfold count
  rw [foldr_wordCount, hmore, List.range_add, List.countP_append, List.countP_map, card_members,
    ← hbelow]
  exact congrArg (_ + ·) hbeyond

/-! ## Equality -/

/-- A set of slots is represented by one mask only. -/
theorem Fits.eq_of_members (ha : a.Fits width) (hb : b.Fits width) (h : a.members = b.members) :
    a = b := by
  have hbit : ∀ slot, a.bit slot = b.bit slot := by
    intro slot
    rw [← ha.get_eq_bit, ← hb.get_eq_bit, Bool.eq_iff_iff, ← mem_members_iff, ← mem_members_iff, h]
  have hwidth : a.width = b.width := ha.width_eq.trans hb.width_eq.symm
  have hwords : a.words = b.words := by
    refine List.ext_getElem (ha.length_eq.trans hb.length_eq.symm) fun place hplace hplace' => ?_
    refine BitVec.eq_of_getLsbD_eq fun offset hoffset => ?_
    rw [← a.bit_of_place hplace hoffset, hbit, b.bit_of_place hplace' hoffset]
  cases a
  cases b
  exact congrArg₂ Mask.mk hwidth hwords

/-- Masks of a width that are built from the empty one are the finite sets of slots below it. No bit
is stored at or beyond the width. Testing, listing in ascending order, counting and asking for
emptiness answer for one and the same set of slots. The empty mask has no slots; adding a slot adds
just that one, if it lies below the width; union and difference are those of the sets. Two masks are
equal exactly if they have the same slots. -/
theorem masks_are_finite_sets (width : Nat) :
    (∀ mask, Built width mask →
      (∀ place (hplace : place < mask.words.length) offset,
        mask.words[place].getLsbD offset = true → place * wordBits + offset < width) ∧
      mask.members ⊆ Finset.range width ∧
      (∀ slot, mask.get slot = true ↔ slot ∈ mask.members) ∧
      mask.slots.Pairwise (· < ·) ∧ (∀ slot, slot ∈ mask.slots ↔ slot ∈ mask.members) ∧
      mask.count = mask.members.card ∧
      (mask.isEmpty = true ↔ mask.members = ∅) ∧
      ∀ slot, (mask.set slot).members =
        if slot < width then insert slot mask.members else mask.members) ∧
    (Mask.empty width).members = ∅ ∧
    ∀ a b, Built width a → Built width b →
      (a.union b).members = a.members ∪ b.members ∧
      (a.difference b).members = a.members \ b.members ∧
      (a = b ↔ ∀ slot, a.get slot = b.get slot) := by
  refine ⟨fun mask hmask => ?_, members_empty width, fun a b ha hb => ?_⟩
  · have hfits := hmask.fits
    have hbelow : mask.members ⊆ Finset.range width := hfits.width_eq ▸ mask.members_subset
    exact ⟨fun _ hplace _ => hfits.lt_of_getLsbD hplace, hbelow, fun _ => mem_members_iff.symm,
      mask.pairwise_slots, fun _ => mem_slots_iff, hfits.count_eq, hfits.isEmpty_iff_members,
      hfits.members_set⟩
  · refine ⟨ha.fits.members_union hb.fits, ha.fits.members_difference hb.fits, ?_⟩
    constructor
    · rintro rfl slot
      rfl
    · intro hsame
      refine ha.fits.eq_of_members hb.fits ?_
      ext slot
      rw [mem_members_iff, mem_members_iff, hsame]

/-- In a mask of two words, a slot that is set in both masks leaves the difference, and one beyond
the width is in neither. -/
theorem masks_are_finite_sets_two_words :
    Built 65 (((empty 65).set 0).set 64) ∧ Built 65 (((empty 65).set 64).set 70) ∧
      ((((empty 65).set 0).set 64).difference (((empty 65).set 64).set 70)).members = {0} ∧
      (((empty 65).set 0).set 64).count = 2 ∧
      ((empty 65).set 0).set 64 ≠ ((empty 65).set 64).set 70 := by
  have ha : Built 65 (((empty 65).set 0).set 64) := (Built.empty.set 0).set 64
  have hb : Built 65 (((empty 65).set 64).set 70) := (Built.empty.set 64).set 70
  obtain ⟨heach, _, hboth⟩ := masks_are_finite_sets 65
  obtain ⟨_, hdifference, hequal⟩ := hboth _ _ ha hb
  obtain ⟨_, _, _, _, _, hcount, _⟩ := heach _ ha
  refine ⟨ha, hb, hdifference.trans (by decide +kernel), hcount.trans (by decide +kernel), ?_⟩
  intro hsame
  exact absurd (hequal.mp hsame 0) (by decide +kernel)

end QueryGate.Mask
