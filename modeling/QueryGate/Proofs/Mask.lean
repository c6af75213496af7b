import QueryGate.Mask

/-!
# Masks are sets of slots

Every mask of a generation has the generation's width, as many words as the width needs, and no
bit at or beyond the width. Among such masks adding a slot adds exactly that slot, and a union
holds exactly the slots of either mask.
-/

namespace QueryGate.Mask

/-- The bit stored for a slot, whether or not the slot lies below the width. -/
def bit (mask : Mask) (slot : Nat) : Bool :=
  (mask.words[slot / wordBits]?).any fun word => word.getLsbD (slot % wordBits)

/-- A slot is in the mask if it lies below the width and its bit is set. -/
theorem get_eq (mask : Mask) (slot : Nat) :
    mask.get slot = (decide (slot < mask.width) && mask.bit slot) := rfl

/-- The mask represents a set of slots below a width. -/
structure Fits (mask : Mask) (width : Nat) : Prop where
  /-- The mask has this width. -/
  width_eq : mask.width = width
  /-- There are as many words as the width needs. -/
  length_eq : mask.words.length = (width + wordBits - 1) / wordBits
  /-- No bit is set at or beyond the width. -/
  padding : ∀ slot, width ≤ slot → mask.bit slot = false

variable {width : Nat} {mask a b : Mask}

/-- Below the width the slots are the stored bits. -/
theorem Fits.get_eq_bit (h : mask.Fits width) (slot : Nat) : mask.get slot = mask.bit slot := by
  rw [get_eq, h.width_eq]
  by_cases hs : slot < width
  · simp [hs]
  · rw [h.padding slot (by omega), Bool.and_false]

/-- A slot at or beyond the width is not in the mask. -/
theorem Fits.get_of_le (h : mask.Fits width) {slot : Nat} (hs : width ≤ slot) :
    mask.get slot = false := by
  rw [h.get_eq_bit, h.padding slot hs]

/-- The empty mask stores no bit. -/
theorem bit_empty (width slot : Nat) : (empty width).bit slot = false := by
  unfold bit empty
  rw [List.getElem?_replicate]
  split
  · simp
  · rfl

/-- The empty mask represents a set. -/
theorem fits_empty (width : Nat) : (empty width).Fits width :=
  ⟨rfl, List.length_replicate, fun slot _ => bit_empty width slot⟩

/-- The empty mask has no slots. -/
theorem get_empty (width slot : Nat) : (empty width).get slot = false := by
  rw [(fits_empty width).get_eq_bit, bit_empty]

/-- A slot below the width has a word. -/
theorem Fits.word_lt (h : mask.Fits width) {slot : Nat} (hs : slot < width) :
    slot / wordBits < mask.words.length := by
  rw [h.length_eq]
  unfold wordBits
  omega

/-- Adding a slot below the width sets its bit and no other. -/
theorem Fits.bit_set (h : mask.Fits width) {slot : Nat} (hs : slot < width) (other : Nat) :
    (mask.set slot).bit other = (mask.bit other || decide (other = slot)) := by
  have hword := h.word_lt hs
  have hpos : 0 < wordBits := by decide
  unfold bit set
  rw [h.width_eq, if_pos hs]
  dsimp only
  rw [List.getElem?_modify]
  by_cases hsame : slot / wordBits = other / wordBits
  · have hoffset : other % wordBits = slot % wordBits ↔ other = slot := by
      have hslot := Nat.div_add_mod slot wordBits
      have hother := Nat.div_add_mod other wordBits
      rw [hsame] at hslot
      omega
    rw [← hsame, List.getElem?_eq_getElem hword]
    simp [Nat.mod_lt _ hpos, hoffset]
  · have hother : other ≠ slot := fun he => hsame (by rw [he])
    simp [hsame, hother]

/-- Adding a slot keeps a mask the representation of a set. -/
theorem Fits.set (h : mask.Fits width) (slot : Nat) : (mask.set slot).Fits width := by
  by_cases hs : slot < width
  · refine ⟨?_, ?_, ?_⟩
    · unfold Mask.set
      split <;> exact h.width_eq
    · unfold Mask.set
      split
      · rw [List.length_modify, h.length_eq]
      · exact h.length_eq
    · intro other hother
      rw [h.bit_set hs, h.padding other hother, Bool.false_or, decide_eq_false_iff_not]
      omega
  · unfold Mask.set
    rw [h.width_eq, if_neg hs]
    exact h

/-- Adding a slot adds exactly that slot, if it lies below the width. -/
theorem Fits.get_set (h : mask.Fits width) (slot other : Nat) :
    (mask.set slot).get other = (mask.get other || decide (other = slot ∧ slot < width)) := by
  by_cases hs : slot < width
  · rw [(h.set slot).get_eq_bit, h.get_eq_bit, h.bit_set hs]
    simp [hs]
  · unfold Mask.set
    rw [h.width_eq, if_neg hs]
    simp [hs]

/-- Slots added one after the other keep a mask the representation of a set. -/
theorem Fits.foldl_set (h : mask.Fits width) (slots : List Nat) :
    (slots.foldl Mask.set mask).Fits width := by
  induction slots generalizing mask with
  | nil => exact h
  | cons slot slots ih => exact ih (h.set slot)

/-- Slots added one after the other are in the mask together with the earlier ones. -/
theorem Fits.get_foldl_set (h : mask.Fits width) (slots : List Nat) (slot : Nat) :
    (slots.foldl Mask.set mask).get slot =
      (mask.get slot || decide (slot ∈ slots ∧ slot < width)) := by
  induction slots generalizing mask with
  | nil => simp
  | cons first slots ih =>
    rw [List.foldl_cons, ih (h.set first), h.get_set, Bool.or_assoc]
    congr 1
    by_cases hfirst : slot = first
    · subst hfirst
      simp
    · simp [hfirst]

/-- Lists of equal length share all their words. -/
theorem combine_eq_zipWith (f : BitVec wordBits → BitVec wordBits → BitVec wordBits) :
    ∀ {as bs : List (BitVec wordBits)}, as.length = bs.length →
      combine f as bs = List.zipWith f as bs
  | [], [], _ => rfl
  | a :: as, b :: bs, h => by
    rw [combine, List.zipWith_cons_cons, combine_eq_zipWith f (by simpa using h)]

section Combined

variable {f : BitVec wordBits → BitVec wordBits → BitVec wordBits} {g : Bool → Bool → Bool}

/-- Combined words store the bits of both masks, combined in the same way. -/
theorem Fits.bit_combine (ha : a.Fits width) (hb : b.Fits width) (hnone : g false false = false)
    (hf : ∀ x y offset, offset < wordBits →
      (f x y).getLsbD offset = g (x.getLsbD offset) (y.getLsbD offset)) (slot : Nat) :
    Mask.bit { a with words := combine f a.words b.words } slot = g (a.bit slot) (b.bit slot) := by
  have hlength : a.words.length = b.words.length := ha.length_eq.trans hb.length_eq.symm
  unfold bit
  dsimp only
  rw [combine_eq_zipWith _ hlength, List.getElem?_zipWith]
  by_cases hs : slot / wordBits < a.words.length
  · rw [List.getElem?_eq_getElem hs, List.getElem?_eq_getElem (hlength ▸ hs)]
    exact hf _ _ _ (Nat.mod_lt _ (by decide))
  · rw [List.getElem?_eq_none (by omega), List.getElem?_eq_none (by omega)]
    exact hnone.symm

/-- Combined words represent a set, if no bit comes out of two that are not set. -/
theorem Fits.combine (ha : a.Fits width) (hb : b.Fits width) (hnone : g false false = false)
    (hf : ∀ x y offset, offset < wordBits →
      (f x y).getLsbD offset = g (x.getLsbD offset) (y.getLsbD offset)) :
    Fits { a with words := Mask.combine f a.words b.words } width := by
  refine ⟨ha.width_eq, ?_, ?_⟩
  · have hlength : a.words.length = b.words.length := ha.length_eq.trans hb.length_eq.symm
    dsimp only
    rw [combine_eq_zipWith _ hlength, List.length_zipWith, ← hlength, Nat.min_self, ha.length_eq]
  · intro slot hs
    rw [ha.bit_combine hb hnone hf, ha.padding slot hs, hb.padding slot hs, hnone]

end Combined

/-- A union stores the bits of either mask. -/
theorem Fits.bit_union (ha : a.Fits width) (hb : b.Fits width) (slot : Nat) :
    (a.union b).bit slot = (a.bit slot || b.bit slot) :=
  ha.bit_combine hb rfl (fun _ _ _ _ => BitVec.getLsbD_or) slot

/-- A union of representations of sets is one. -/
theorem Fits.union (ha : a.Fits width) (hb : b.Fits width) : (a.union b).Fits width :=
  ha.combine hb rfl fun _ _ _ _ => BitVec.getLsbD_or

/-- A union holds exactly the slots of either mask. -/
theorem Fits.get_union (ha : a.Fits width) (hb : b.Fits width) (slot : Nat) :
    (a.union b).get slot = (a.get slot || b.get slot) := by
  rw [(ha.union hb).get_eq_bit, ha.get_eq_bit, hb.get_eq_bit, ha.bit_union hb]

/-- A union of many masks holds exactly the slots of any of them. -/
theorem Fits.get_foldl_union (h : mask.Fits width) {masks : List Mask}
    (hs : ∀ other ∈ masks, other.Fits width) (slot : Nat) :
    (masks.foldl Mask.union mask).get slot = (mask.get slot || masks.any (·.get slot)) := by
  induction masks generalizing mask with
  | nil => simp
  | cons first masks ih =>
    have hfirst := hs first (by simp)
    rw [List.foldl_cons, ih (h.union hfirst) fun other ho => hs other (by simp [ho]),
      h.get_union hfirst, List.any_cons, Bool.or_assoc]

/-- A union of many representations of sets is one. -/
theorem Fits.foldl_union (h : mask.Fits width) {masks : List Mask}
    (hs : ∀ other ∈ masks, other.Fits width) : (masks.foldl Mask.union mask).Fits width := by
  induction masks generalizing mask with
  | nil => exact h
  | cons first masks ih =>
    exact ih (h.union (hs first List.mem_cons_self)) fun other ho =>
      hs other (List.mem_cons_of_mem first ho)

/-- A mask without set bits has no slots. -/
theorem get_of_isEmpty (h : mask.isEmpty = true) (slot : Nat) : mask.get slot = false := by
  unfold isEmpty at h
  rw [List.all_eq_true] at h
  rw [get_eq]
  unfold bit
  cases hword : mask.words[slot / wordBits]? with
  | none => rw [Option.any_none, Bool.and_false]
  | some word =>
    have hzero := eq_of_beq (h word (List.mem_of_getElem? hword))
    rw [hzero]
    simp

/-- The bit at a place of a word is that of one slot. -/
theorem bit_of_place (mask : Mask) {place offset : Nat} (hplace : place < mask.words.length)
    (hoffset : offset < wordBits) :
    mask.bit (place * wordBits + offset) = mask.words[place].getLsbD offset := by
  have hslot : (place * wordBits + offset) / wordBits = place ∧
      (place * wordBits + offset) % wordBits = offset := by
    unfold wordBits at hoffset ⊢
    omega
  unfold bit
  rw [hslot.1, hslot.2, List.getElem?_eq_getElem hplace, Option.any_some]

/-- A mask that represents a set has no bit set if it has no slots. -/
theorem Fits.isEmpty_iff (h : mask.Fits width) :
    mask.isEmpty = true ↔ ∀ slot, mask.get slot = false := by
  refine ⟨get_of_isEmpty, ?_⟩
  intro hnone
  unfold isEmpty
  rw [List.all_eq_true]
  intro word hword
  obtain ⟨place, hplace, rfl⟩ := List.mem_iff_getElem.mp hword
  rw [beq_iff_eq]
  apply BitVec.eq_of_getLsbD_eq
  intro offset hoffset
  rw [← mask.bit_of_place hplace hoffset, ← h.get_eq_bit, hnone]
  exact BitVec.getLsbD_zero.symm

end QueryGate.Mask
