import QueryGate.Proofs.BoundsShape
import QueryGate.Proofs.Globs
import QueryGate.Regex.Parser

/-!
# The expression for bounds

The shape of bounds is what a regular expression says: a run of digits behind a sign or none, twice,
with `-` and blanks between. An expression without assertions reads the texts of some language,
wherever it starts; what a sequence and a repeated step read is told by their parts. The main
statement is that the expression, as it is written, finds exactly the texts that have the shape.
-/

namespace QueryGate.Regex

open QueryGate.Text

/-! ## Languages -/

/-- Wherever the expression starts, it passes the texts of a language and no others. -/
def Reads (r : Regex) (language : List Char → Prop) : Prop :=
  ∀ before rest j, r.Leads (before ++ rest) before.length j ↔
    ∃ part after, rest = part ++ after ∧ language part ∧ j = (before ++ part).length

/-- Wherever the expression starts, it matches exactly if what follows is in a language. -/
def Finishes (r : Regex) (language : List Char → Prop) : Prop :=
  ∀ before rest, (∃ j, r.Leads (before ++ rest) before.length j) ↔ language rest

variable {r s : Regex} {language others : List Char → Prop}

/-- A text is split in two, of which each is in a language. -/
def Concatenated (language others : List Char → Prop) (text : List Char) : Prop :=
  ∃ part after, text = part ++ after ∧ language part ∧ others after

/-- A language may be described in other words. -/
theorem Reads.congr (h : r.Reads language) (hsame : ∀ text, language text ↔ others text) :
    r.Reads others := by
  have hlanguage : language = others := funext fun text => propext (hsame text)
  exact hlanguage ▸ h

/-- A sequence reads what its parts read, one after the other. -/
theorem Reads.sequence (hr : r.Reads language) (hs : s.Reads others) :
    (sequence r s).Reads (Concatenated language others) := by
  intro before rest k
  constructor
  · rintro ⟨j, hfirst, hsecond⟩
    obtain ⟨part, after, rfl, hpart, rfl⟩ := (hr before rest j).mp hfirst
    rw [← List.append_assoc] at hsecond
    obtain ⟨part', after', rfl, hpart', rfl⟩ := (hs (before ++ part) after k).mp hsecond
    exact ⟨part ++ part', after', by simp, ⟨part, part', rfl, hpart, hpart'⟩, by simp⟩
  · rintro ⟨_, after', rfl, ⟨part, part', rfl, hpart, hpart'⟩, rfl⟩
    refine ⟨(before ++ part).length, ?_, ?_⟩
    · exact (hr before _ _).mpr ⟨part, part' ++ after', by simp, hpart, rfl⟩
    · have h := (hs (before ++ part) (part' ++ after') _).mpr ⟨part', after', rfl, hpart', rfl⟩
      simpa using h

/-- The end of the text finishes where nothing follows. -/
theorem finishes_textEnd : (assertion .textEnd).Finishes (· = []) := by
  intro before rest
  simp [leads_textEnd]

/-- A sequence finishes where its first part leads to where the second finishes. -/
theorem Reads.finishes (hr : r.Reads language) (hs : s.Finishes others) :
    (Regex.sequence r s).Finishes (Concatenated language others) := by
  intro before rest
  constructor
  · rintro ⟨k, j, hfirst, hsecond⟩
    obtain ⟨part, after, rfl, hpart, rfl⟩ := (hr before rest j).mp hfirst
    rw [← List.append_assoc] at hsecond
    exact ⟨part, after, rfl, hpart, (hs (before ++ part) after).mp ⟨k, hsecond⟩⟩
  · rintro ⟨part, after, rfl, hpart, hafter⟩
    obtain ⟨k, hk⟩ := (hs (before ++ part) after).mpr hafter
    rw [List.append_assoc] at hk
    exact ⟨k, _, (hr before _ _).mpr ⟨part, after, rfl, hpart, rfl⟩, hk⟩

/-- Behind the start of the text, an expression is found exactly in the texts of the language with
which it finishes. -/
theorem Finishes.search_iff (h : r.Finishes language) (text : String) :
    (Regex.sequence (assertion .textStart) r).search text = true ↔ language text.toList := by
  rw [Regex.search_iff, ← h [] text.toList]
  constructor
  · rintro ⟨i, j, k, hstart, hr⟩
    obtain ⟨-, rfl⟩ := leads_textStart.mp hstart
    exact ⟨j, hr⟩
  · rintro ⟨j, hr⟩
    exact ⟨0, j, 0, leads_textStart.mpr ⟨rfl, rfl⟩, hr⟩

/-- A character stands behind a text exactly if what follows the text starts with it. -/
theorem getElem?_append_length {before rest : List Char} {c : Char} :
    (before ++ rest)[before.length]? = some c ↔ ∃ after, rest = c :: after := by
  rw [List.getElem?_append_right (le_refl _), Nat.sub_self, ← List.head?_eq_getElem?,
    List.head?_eq_some_iff]

/-- Rounds of a step pass as many characters of its set. -/
theorem rounds_step_iff (set : CharSet) (n : Nat) (before rest : List Char) (j : Nat) :
    Rounds ((step set).Leads (before ++ rest)) n before.length j ↔
      ∃ part after, rest = part ++ after ∧
        (part.length = n ∧ ∀ c ∈ part, set.contains c = true) ∧ j = (before ++ part).length := by
  induction n generalizing before rest with
  | zero =>
    constructor
    · intro h
      cases h
      exact ⟨[], rest, rfl, ⟨rfl, by simp⟩, by simp⟩
    · rintro ⟨part, after, rfl, ⟨hlength, _⟩, rfl⟩
      rw [List.length_eq_zero_iff.mp hlength, List.append_nil]
      exact .none _
  | succ n ih =>
    constructor
    · intro h
      cases h with
      | more first others =>
        obtain ⟨rfl, c, hc, hset⟩ := first
        obtain ⟨rest, rfl⟩ := getElem?_append_length.mp hc
        have h := ih (before ++ [c]) rest
        rw [List.append_assoc, List.length_append] at h
        obtain ⟨part, after, rfl, ⟨rfl, hpart⟩, rfl⟩ := h.mp others
        exact ⟨c :: part, after, rfl, ⟨rfl, List.forall_mem_cons.mpr ⟨hset, hpart⟩⟩, by simp⟩
    · rintro ⟨part, after, rfl, ⟨hlength, hset⟩, rfl⟩
      obtain ⟨c, part, rfl⟩ := List.exists_cons_of_length_eq_add_one hlength
      obtain ⟨hc, hpart⟩ := List.forall_mem_cons.mp hset
      have h := (ih (before ++ [c]) (part ++ after)).mpr
        ⟨part, after, rfl, ⟨Nat.succ.inj hlength, hpart⟩, by simp⟩
      rw [List.append_assoc, List.length_append] at h
      exact .more ⟨rfl, c, getElem?_append_length.mpr ⟨part ++ after, rfl⟩, hc⟩ h

/-- A repeated step reads the runs of its characters of the lengths allowed. -/
theorem reads_repeated_step (set : CharSet) (least : Nat) (most : Option Nat) :
    (repeated (step set) least most).Reads fun part => least ≤ part.length ∧
      (∀ m, most = some m → part.length ≤ max least m) ∧ ∀ c ∈ part, set.contains c = true := by
  intro before rest j
  constructor
  · rintro ⟨_, n, hleast, hmost, hrounds⟩
    obtain ⟨part, after, rfl, ⟨rfl, hset⟩, rfl⟩ := (rounds_step_iff set n before rest j).mp hrounds
    exact ⟨part, after, rfl, ⟨hleast, hmost, hset⟩, rfl⟩
  · rintro ⟨part, after, rfl, ⟨hleast, hmost, hset⟩, rfl⟩
    refine ⟨by simp, part.length, hleast, hmost, ?_⟩
    exact (rounds_step_iff set _ before _ _).mpr ⟨part, after, rfl, ⟨rfl, hset⟩, rfl⟩

/-! ## Sets -/

/-- A code point is covered by ascending ranges exactly if it is in one of them. -/
theorem covers_iff {ranges : List Range} {n : Nat} (h : ranges.Pairwise fun r s => r.1 ≤ s.1) :
    CharSet.covers ranges n = true ↔ ∃ range ∈ ranges, range.1 ≤ n ∧ n ≤ range.2 := by
  induction ranges with
  | nil => simp [CharSet.covers]
  | cons range ranges ih =>
    obtain ⟨hfirst, hrest⟩ := List.pairwise_cons.mp h
    obtain ⟨lo, hi⟩ := range
    rw [CharSet.covers, Bool.and_eq_true, Bool.or_eq_true, decide_eq_true_iff, decide_eq_true_iff,
      ih hrest, List.exists_mem_cons_iff]
    constructor
    · rintro ⟨hlo, hhi | hrest⟩
      · exact .inl ⟨hlo, hhi⟩
      · exact .inr hrest
    · rintro (⟨hlo, hhi⟩ | ⟨range, hmem, hlo, hhi⟩)
      · exact ⟨hlo, .inl hhi⟩
      · exact ⟨(hfirst range hmem).trans hlo, .inr ⟨range, hmem, hlo, hhi⟩⟩

/-- The short name for blanks stands for the blanks. -/
theorem contains_blank (c : Char) : Shorthand.blank.set.contains c = isBlank c := by
  rw [Bool.eq_iff_iff]
  unfold CharSet.contains isBlank
  rw [covers_iff (by decide), List.any_eq_true]
  simp only [Bool.and_eq_true, decide_eq_true_iff]
  rfl

/-- The short name for digits stands for the decimal digits of every script. -/
theorem contains_digit (c : Char) : Shorthand.digit.set.contains c = isDecimalDigit c := by
  have hwithin : ∀ z ∈ zeroDigits, ∃ range ∈ Shorthand.digit.set.ranges,
      range.1 ≤ z ∧ z + 9 ≤ range.2 := by decide +kernel
  -- Each of the ranges is made of runs of ten digits.
  have htens : ∀ range ∈ Shorthand.digit.set.ranges, (range.2 + 1 - range.1) % 10 = 0 ∧
      ∀ k < (range.2 + 1 - range.1) / 10, range.1 + 10 * k ∈ zeroDigits := by decide +kernel
  rw [Bool.eq_iff_iff]
  unfold CharSet.contains isDecimalDigit
  rw [covers_iff (by decide +kernel), List.any_eq_true]
  simp only [Bool.and_eq_true, decide_eq_true_iff]
  constructor
  · rintro ⟨range, hrange, hlo, hhi⟩
    obtain ⟨htens, hzero⟩ := htens range hrange
    exact ⟨_, hzero ((c.toNat - range.1) / 10) (by omega), by omega, by omega⟩
  · rintro ⟨z, hz, hlo, hhi⟩
    obtain ⟨range, hrange, hlo', hhi'⟩ := hwithin z hz
    exact ⟨range, hrange, by omega, by omega⟩

/-- The signs. -/
def signs : CharSet :=
  ⟨[('+'.toNat, '+'.toNat), ('-'.toNat, '-'.toNat)]⟩

/-- The members of the set of signs are the two signs. -/
theorem contains_signs (c : Char) : signs.contains c = true ↔ c = '+' ∨ c = '-' := by
  unfold CharSet.contains signs
  rw [covers_iff (by decide), ← Char.toNat_inj, ← Char.toNat_inj]
  simp only [List.mem_cons, List.not_mem_nil, or_false, exists_eq_or_imp, exists_eq_left]
  omega

/-! ## The expression for bounds -/

/-- The expression for bounds, as it is written. -/
def boundsExpression : String :=
  "^([+-]?\\d+)\\s*-\\s*([+-]?\\d+)$"

/-- Digits behind a sign or none. -/
def signedDigits : Regex :=
  sequence (repeated (step signs) 0 (some 1)) (repeated (step Shorthand.digit.set) 1 none)

/-- Blanks, if there are any. -/
def blanks : Regex :=
  star (step Shorthand.blank.set)

/-- What the expression for bounds writes. -/
theorem parse?_boundsExpression : parse? boundsExpression.toList =
    some (sequenceAll [assertion .textStart, signedDigits, blanks, char '-', blanks, signedDigits,
      assertion .textEnd]) := by
  decide +kernel

/-- A step for one character reads this character. -/
theorem reads_char (c : Char) : (char c).Reads (· = [c]) := by
  intro before rest j
  rw [Glob.leads_char]
  constructor
  · rintro ⟨rfl, hc⟩
    obtain ⟨rest, rfl⟩ := getElem?_append_length.mp hc
    exact ⟨[c], rest, rfl, rfl, by simp⟩
  · rintro ⟨_, after, rfl, rfl, rfl⟩
    simp

/-- Blanks are read as such. -/
theorem reads_blanks : blanks.Reads fun part => ∀ c ∈ part, isBlank c = true := by
  refine (reads_repeated_step Shorthand.blank.set 0 none).congr fun part => ?_
  simp [contains_blank]

/-- Digits behind a sign or none are read as a signed run. -/
theorem reads_signedDigits : signedDigits.Reads (SignedRun isDecimalDigit) := by
  refine ((reads_repeated_step signs 0 (some 1)).sequence
    (reads_repeated_step Shorthand.digit.set 1 none)).congr fun text => ?_
  simp only [contains_signs, contains_digit]
  constructor
  · rintro ⟨sign, digits, rfl, ⟨_, hlength, hsign⟩, ⟨hne, _, hdigits⟩⟩
    have hrun : Run isDecimalDigit digits := ⟨List.ne_nil_of_length_pos hne, hdigits⟩
    have hshort : sign.length ≤ 1 := hlength 1 rfl
    cases sign with
    | nil => exact .unsigned hrun
    | cons c sign =>
      rw [List.length_eq_zero_iff.mp (Nat.le_zero.mp (Nat.le_of_succ_le_succ hshort))]
      rcases hsign c (List.mem_cons_self ..) with rfl | rfl
      · exact .plus hrun
      · exact .minus hrun
  · rintro (⟨hne, hdigits⟩ | ⟨hne, hdigits⟩ | ⟨hne, hdigits⟩)
    · exact ⟨[], text, rfl, by simp, List.length_pos_iff.mpr hne, by simp, hdigits⟩
    · exact ⟨['+'], _, rfl, by simp, List.length_pos_iff.mpr hne, by simp, hdigits⟩
    · exact ⟨['-'], _, rfl, by simp, List.length_pos_iff.mpr hne, by simp, hdigits⟩

/-- The expression for bounds finds exactly the texts of the shape of bounds. -/
theorem search_boundsExpression (text : String) :
    ∃ r, parse? boundsExpression.toList = some r ∧
      r.search text = hasBoundsShape text.toList := by
  refine ⟨_, parse?_boundsExpression, ?_⟩
  have hfinishes := reads_signedDigits.finishes (reads_blanks.finishes ((reads_char '-').finishes
    (reads_blanks.finishes (reads_signedDigits.finishes finishes_textEnd))))
  rw [Bool.eq_iff_iff, hasBoundsShape_iff]
  refine (hfinishes.search_iff text).trans ?_
  constructor
  · rintro ⟨lower, _, htext, hlower, before, _, rfl, hbefore, _, _, rfl, rfl, after, _, rfl, hafter,
      upper, _, rfl, hupper, rfl⟩
    refine ⟨lower, upper, ⟨before, after, List.forall_mem_append.mpr ⟨hbefore, hafter⟩, ?_⟩,
      hlower, hupper⟩
    simpa using htext
  · rintro ⟨lower, upper, ⟨before, after, hblank, htext⟩, hlower, hupper⟩
    obtain ⟨hbefore, hafter⟩ := List.forall_mem_append.mp hblank
    exact ⟨lower, _, htext, hlower, before, _, rfl, hbefore, ['-'], _, rfl, rfl, after, _, rfl,
      hafter, upper, [], by simp, hupper, rfl⟩

end QueryGate.Regex
