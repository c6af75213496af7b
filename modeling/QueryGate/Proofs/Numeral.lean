import QueryGate.Proofs.Trimming
import QueryGate.Text.Bounds

/-!
# Numerals of integers

A text denotes an integer if it is a run of ASCII digits, at least one, behind a sign or none.
Leading zeros do not count. The decimal numeral of an integer is one of the texts that denote it. An
integer is read from exactly the texts that denote one of 64 bits.
-/

namespace QueryGate.Text

/-- The decimal numeral of an integer. -/
def numeral (n : Int) : List Char :=
  (toString n).toList

/-- The numeral of a natural number has digits only. -/
theorem numeral_ofNat (n : Nat) : numeral (Int.ofNat n) = Nat.toDigits 10 n :=
  Nat.toList_repr

/-- The numeral of a negative number has a sign and digits. -/
theorem numeral_negSucc (n : Nat) : numeral (Int.negSucc n) = '-' :: Nat.toDigits 10 (n + 1) := by
  unfold numeral
  change ("-" ++ Nat.repr (n + 1)).toList = _
  rw [String.toList_append, Nat.toList_repr]
  rfl

/-- A numeral is made of digits and a sign. -/
theorem eq_or_isDigit_of_mem_numeral {c : Char} {n : Int} (h : c ∈ numeral n) :
    c = '-' ∨ c.isDigit = true := by
  cases n with
  | ofNat n =>
    rw [numeral_ofNat] at h
    exact .inr (Nat.isDigit_of_mem_toDigits (by decide) (by decide) h)
  | negSucc n =>
    rw [numeral_negSucc, List.mem_cons] at h
    exact h.imp_right (Nat.isDigit_of_mem_toDigits (by decide) (by decide))

/-! ## Digits and blanks -/

/-- The digits of ASCII, by their code points. -/
theorem isDigit_iff {c : Char} : c.isDigit = true ↔ 48 ≤ c.toNat ∧ c.toNat ≤ 57 := by
  simp [Char.isDigit, UInt32.le_iff_toNat_le]

/-- An ASCII digit is a decimal digit. -/
theorem isDecimalDigit_of_isDigit {c : Char} (h : c.isDigit = true) : isDecimalDigit c = true := by
  rw [isDigit_iff] at h
  unfold isDecimalDigit
  refine List.any_eq_true.mpr ⟨0x30, List.mem_cons_self .., ?_⟩
  rw [Bool.and_eq_true, decide_eq_true_iff, decide_eq_true_iff]
  omega

/-- A digit is no blank. -/
theorem isBlank_of_isDecimalDigit {c : Char} (h : isDecimalDigit c = true) :
    isBlank c = false := by
  have hapart : ∀ z ∈ zeroDigits, ∀ range ∈ blankRanges, range.2 < z ∨ z + 10 ≤ range.1 := by
    decide
  obtain ⟨z, hz, hdigit⟩ := List.any_eq_true.mp h
  refine List.any_eq_false.mpr fun range hrange => ?_
  have hdisjoint := hapart z hz range hrange
  simp only [Bool.and_eq_true, decide_eq_true_iff] at hdigit ⊢
  omega

/-- No blank is a digit. -/
theorem isDecimalDigit_of_isBlank {c : Char} (h : isBlank c = true) :
    isDecimalDigit c = false := by
  rw [Bool.eq_false_iff]
  intro hdigit
  rw [isBlank_of_isDecimalDigit hdigit] at h
  cases h

/-- Two numerals joined by `-` are made of digits and signs. -/
theorem eq_or_isDigit_of_mem_numerals {c : Char} {min max : Int}
    (h : c ∈ numeral min ++ '-' :: numeral max) : c = '-' ∨ c.isDigit = true := by
  rw [List.mem_append, List.mem_cons] at h
  rcases h with hmin | hsign | hmax
  · exact eq_or_isDigit_of_mem_numeral hmin
  · exact .inl hsign
  · exact eq_or_isDigit_of_mem_numeral hmax

/-- Two numerals joined by `-` have no blanks. -/
theorem isBlank_of_mem_numerals {c : Char} {min max : Int}
    (h : c ∈ numeral min ++ '-' :: numeral max) : isBlank c = false := by
  rcases eq_or_isDigit_of_mem_numerals h with rfl | hdigit
  · decide
  · exact isBlank_of_isDecimalDigit (isDecimalDigit_of_isDigit hdigit)

/-! ## Texts that denote integers -/

/-- A text is a run of digits, at least one. -/
def Run (isDigit : Char → Bool) (cs : List Char) : Prop :=
  cs ≠ [] ∧ ∀ c ∈ cs, isDigit c = true

/-- The text denotes the integer. -/
inductive Denotes : List Char → Int → Prop
  /-- Digits alone denote what they write. -/
  | unsigned {digits : List Char} (h : Run Char.isDigit digits) :
    Denotes digits (Int.ofNat (Nat.ofDigitChars 10 digits 0))
  /-- A plus makes no difference. -/
  | plus {digits : List Char} (h : Run Char.isDigit digits) :
    Denotes ('+' :: digits) (Int.ofNat (Nat.ofDigitChars 10 digits 0))
  /-- A minus makes the number negative. -/
  | minus {digits : List Char} (h : Run Char.isDigit digits) :
    Denotes ('-' :: digits) (-Int.ofNat (Nat.ofDigitChars 10 digits 0))

variable {cs : List Char} {n m : Int}

/-- Digits are read exactly from a run of them, as the number that they write. -/
theorem digits?_eq_some_iff {k : Nat} :
    digits? cs = some k ↔ Run Char.isDigit cs ∧ Nat.ofDigitChars 10 cs 0 = k := by
  have hvalue : Nat.ofDigitChars 10 cs 0 = digitsValue cs := Nat.ofDigitChars_eq_foldl
  unfold digits? Run
  rw [hvalue]
  simp

/-- A run starts with a digit. -/
theorem Run.head {isDigit : Char → Bool} {c : Char} (h : Run isDigit (c :: cs)) :
    isDigit c = true :=
  h.2 c (List.mem_cons_self ..)

/-- A text denotes at most one integer. -/
theorem Denotes.unique (h : Denotes cs n) (h' : Denotes cs m) : n = m := by
  have hplus : Char.isDigit '+' ≠ true := by decide
  have hminus : Char.isDigit '-' ≠ true := by decide
  cases h with
  | unsigned hdigits =>
    cases h' with
    | unsigned _ => rfl
    | plus _ => exact absurd hdigits.head hplus
    | minus _ => exact absurd hdigits.head hminus
  | plus _ =>
    cases h' with
    | unsigned hdigits => exact absurd hdigits.head hplus
    | plus _ => rfl
  | minus _ =>
    cases h' with
    | unsigned hdigits => exact absurd hdigits.head hminus
    | minus _ => rfl

/-- The decimal numeral of an integer denotes it. -/
theorem denotes_numeral (n : Int) : Denotes (numeral n) n := by
  have hrun : ∀ n, Run Char.isDigit (Nat.toDigits 10 n) := fun n =>
    ⟨Nat.toDigits_ne_nil, fun _ => Nat.isDigit_of_mem_toDigits (by decide) (by decide)⟩
  cases n with
  | ofNat n =>
    have h := Denotes.unsigned (hrun n)
    rwa [Nat.ofDigitChars_ten_toDigits, ← numeral_ofNat] at h
  | negSucc n =>
    have h := Denotes.minus (hrun (n + 1))
    rwa [Nat.ofDigitChars_ten_toDigits, ← numeral_negSucc] at h

/-! ## Reading -/

/-- An integer is one of the signed integers of 64 bits. -/
def FitsWord (n : Int) : Prop :=
  -Int.ofNat (Nat.pow 2 63) ≤ n ∧ n < Int.ofNat (Nat.pow 2 63)

instance (n : Int) : Decidable (FitsWord n) :=
  inferInstanceAs (Decidable (_ ∧ _))

/-- An integer is read exactly from the texts that denote it, if it fits 64 bits. -/
theorem integer?_eq_some_iff : integer? cs = some n ↔ Denotes cs n ∧ FitsWord n := by
  unfold integer?
  dsimp only
  rw [Option.filter_eq_some_iff, Bool.and_eq_true, decide_eq_true_iff, decide_eq_true_iff]
  refine and_congr_left fun _ => ?_
  constructor
  · intro h
    split at h
    all_goals
      obtain ⟨k, hk, rfl⟩ := Option.map_eq_some_iff.mp h
      obtain ⟨hrun, rfl⟩ := digits?_eq_some_iff.mp hk
    · exact .plus hrun
    · exact .minus hrun
    · exact .unsigned hrun
  · intro h
    cases h with
    | plus hrun => exact Option.map_eq_some_iff.mpr ⟨_, digits?_eq_some_iff.mpr ⟨hrun, rfl⟩, rfl⟩
    | minus hrun => exact Option.map_eq_some_iff.mpr ⟨_, digits?_eq_some_iff.mpr ⟨hrun, rfl⟩, rfl⟩
    | unsigned hrun =>
      split
      · exact absurd hrun.head (by decide)
      · exact absurd hrun.head (by decide)
      · exact Option.map_eq_some_iff.mpr ⟨_, digits?_eq_some_iff.mpr ⟨hrun, rfl⟩, rfl⟩

/-- A natural number is read from digits behind a plus or nothing, if it fits 64 bits. -/
theorem natural?_eq_some_iff {k : Nat} : natural? cs = some k ↔
    (∃ digits, (cs = digits ∨ cs = '+' :: digits) ∧ Run Char.isDigit digits ∧
      Nat.ofDigitChars 10 digits 0 = k) ∧ k ≤ wordMax := by
  unfold natural?
  dsimp only
  rw [Option.filter_eq_some_iff, decide_eq_true_iff]
  refine and_congr_left fun _ => ?_
  constructor
  · intro h
    split at h
    · exact ⟨_, .inr rfl, digits?_eq_some_iff.mp h⟩
    · exact ⟨_, .inl rfl, digits?_eq_some_iff.mp h⟩
  · rintro ⟨digits, rfl | rfl, hdigits⟩
    · split
      · exact absurd hdigits.1.head (by decide)
      · exact digits?_eq_some_iff.mpr hdigits
    · exact digits?_eq_some_iff.mpr hdigits

end QueryGate.Text
