import Mathlib.Data.Nat.Bitwise
import QueryGate.Regex.Matcher

/-!
# What an expression matches

An expression leads from a position of a text to others. This is said for each form of expression
by itself: a step passes one character of its set, an assertion stays where it holds, a sequence
goes on from where its first part arrives, and a repetition makes some number of rounds. The
matcher computes the same relation on whole sets of positions at once. The main statement is that
the positions it reaches are exactly those to which the expression leads, so a search succeeds
exactly when the expression leads from some position of the text to some other.
-/

namespace QueryGate.Regex

open QueryGate.Text

/-! ## The relation -/

/-- The character in front of a position. -/
def charBefore (cs : List Char) : Nat → Option Char
  | 0 => none
  | i + 1 => cs[i]?

/-- A number of rounds one after the other lead from one position to another. -/
inductive Rounds (round : Nat → Nat → Prop) : Nat → Nat → Nat → Prop where
  /-- Without a round the position stays. -/
  | none (i : Nat) : Rounds round 0 i i
  /-- The first round leads to where the others start. -/
  | more {n i j k : Nat} (first : round i j) (others : Rounds round n j k) :
    Rounds round (n + 1) i k

/-- The expression matches what stands between two positions of a text. A limit of a repetition
that is less than the least number of rounds counts as that number. -/
def Leads (cs : List Char) : Regex → Nat → Nat → Prop
  | empty => fun i j => i = j ∧ i ≤ cs.length
  | step set => fun i j => j = i + 1 ∧ ∃ c, cs[i]? = some c ∧ set.contains c = true
  | assertion a => fun i j => i = j ∧ i ≤ cs.length ∧ a.holds (charBefore cs i) cs[i]? = true
  | sequence r s => fun i k => ∃ j, Leads cs r i j ∧ Leads cs s j k
  | either r s => fun i j => Leads cs r i j ∨ Leads cs s i j
  | repeated r least most => fun i j => i ≤ cs.length ∧
      ∃ n, least ≤ n ∧ (∀ m, most = some m → n ≤ max least m) ∧ Rounds (Leads cs r) n i j

/-- The expression matches the whole text, from its first to its last character. -/
def Covers (r : Regex) (text : String) : Prop :=
  r.Leads text.toList 0 text.toList.length

namespace Rounds

variable {round : Nat → Nat → Prop} {m n i j k : Nat}

/-- Rounds may be made in two parts. -/
theorem add_iff : Rounds round (m + n) i k ↔ ∃ j, Rounds round m i j ∧ Rounds round n j k := by
  induction m generalizing i with
  | zero =>
    rw [Nat.zero_add]
    constructor
    · exact fun h => ⟨i, .none i, h⟩
    · rintro ⟨j, hnone, h⟩
      cases hnone
      exact h
  | succ m ih =>
    rw [Nat.succ_add]
    constructor
    · intro h
      cases h with
      | more first others =>
        obtain ⟨j, before, after⟩ := ih.mp others
        exact ⟨j, .more first before, after⟩
    · rintro ⟨j, before, after⟩
      cases before with
      | more first others => exact .more first (ih.mpr ⟨j, others, after⟩)

/-- Rounds that never go back do not go back together. -/
theorem le (hround : ∀ i j, round i j → i ≤ j) (h : Rounds round n i j) : i ≤ j := by
  induction h with
  | none => exact le_refl _
  | more first _ ih => exact (hround _ _ first).trans ih

/-- Rounds that never go beyond a position do not go beyond it together. -/
theorem le_of_le {bound : Nat} (hround : ∀ i j, round i j → j ≤ bound)
    (h : Rounds round n i j) (hi : i ≤ bound) : j ≤ bound := by
  induction h with
  | none => exact hi
  | more first _ ih => exact ih (hround _ _ first)

/-- Rounds that never go back can be made without those that stay in place, so there is no need for
more of them than there are positions to pass. -/
theorem exists_le (hround : ∀ i j, round i j → i ≤ j) (h : Rounds round n i j) :
    ∃ m, m ≤ j - i ∧ Rounds round m i j := by
  induction h with
  | none i => exact ⟨0, Nat.zero_le _, .none i⟩
  | @more n i j k first others ih =>
    obtain ⟨m, hm, short⟩ := ih
    have hij := hround i j first
    have hjk := others.le hround
    by_cases hstay : i = j
    · subst hstay
      exact ⟨m, hm, short⟩
    · exact ⟨m + 1, by omega, .more first short⟩

end Rounds

/-- An expression leads only onwards, within the text. -/
theorem Leads.bounds {cs : List Char} {r : Regex} {i j : Nat} (h : r.Leads cs i j) :
    i ≤ j ∧ j ≤ cs.length := by
  induction r generalizing i j with
  | empty =>
    obtain ⟨rfl, hi⟩ := h
    exact ⟨le_refl i, hi⟩
  | step set =>
    obtain ⟨rfl, c, hc, _⟩ := h
    have hi := (List.getElem?_eq_some_iff.mp hc).1
    exact ⟨Nat.le_succ i, hi⟩
  | assertion a =>
    obtain ⟨rfl, hi, _⟩ := h
    exact ⟨le_refl i, hi⟩
  | sequence r s ihr ihs =>
    obtain ⟨k, hr, hs⟩ := h
    exact ⟨(ihr hr).1.trans (ihs hs).1, (ihs hs).2⟩
  | either r s ihr ihs =>
    rcases h with h | h
    · exact ihr h
    · exact ihs h
  | repeated r least most ih =>
    obtain ⟨hi, n, _, _, h⟩ := h
    exact ⟨h.le fun _ _ hround => (ih hround).1, h.le_of_le (fun _ _ hround => (ih hround).2) hi⟩

/-! ## Sets of positions as numbers -/

/-- A set of positions lies within a text of `n` characters. -/
def Within (n set : Nat) : Prop :=
  ∀ i, set.testBit i = true → i ≤ n

/-- A function on sets of positions of a text of `n` characters goes where a relation leads. -/
structure Follows (n : Nat) (round : Nat → Nat) (leads : Nat → Nat → Prop) : Prop where
  /-- A position is reached if the relation leads to it from one of the set. -/
  testBit_iff : ∀ start, Within n start → ∀ j,
    (round start).testBit j = true ↔ ∃ i, start.testBit i = true ∧ leads i j
  /-- The relation never leads back. -/
  le : ∀ i j, leads i j → i ≤ j
  /-- The relation never leads out of the text. -/
  le_length : ∀ i j, leads i j → j ≤ n

namespace Follows

variable {n : Nat} {round : Nat → Nat} {leads : Nat → Nat → Prop}

/-- A round stays within the text. -/
theorem within (h : Follows n round leads) {start : Nat} (hstart : Within n start) :
    Within n (round start) := by
  intro j hj
  obtain ⟨i, _, hij⟩ := (h.testBit_iff start hstart j).mp hj
  exact h.le_length i j hij

/-- A fixed number of rounds goes where as many rounds of the relation lead. -/
theorem testBit_exactly (h : Follows n round leads) (count : Nat) :
    ∀ start, Within n start → ∀ j,
      (exactly round count start).testBit j = true ↔
        ∃ i, start.testBit i = true ∧ Rounds leads count i j := by
  induction count with
  | zero =>
    intro start _ j
    constructor
    · exact fun hj => ⟨j, hj, .none j⟩
    · rintro ⟨i, hi, hrounds⟩
      cases hrounds
      exact hi
  | succ count ih =>
    intro start hstart j
    have hround := h.testBit_iff start hstart
    -- One round more starts from the positions that the first round reaches.
    have hsplit : (∃ i, start.testBit i = true ∧ Rounds leads (count + 1) i j) ↔
        ∃ i, (round start).testBit i = true ∧ Rounds leads count i j := by
      constructor
      · rintro ⟨i, hi, hrounds⟩
        cases hrounds with
        | more first others => exact ⟨_, (hround _).mpr ⟨i, hi, first⟩, others⟩
      · rintro ⟨k, hk, others⟩
        obtain ⟨i, hi, first⟩ := (hround k).mp hk
        exact ⟨i, hi, .more first others⟩
    rw [hsplit]
    unfold exactly
    dsimp only
    split
    · next hfixed =>
      -- The first round changes nothing, so neither do the others.
      have hstill : exactly round count start = start := by
        cases count with
        | zero => rfl
        | succ count =>
          unfold exactly
          rw [if_pos hfixed]
      rw [hfixed, ← ih start hstart j, hstill]
    · exact ih (round start) (h.within hstart) j

/-- Rounds up to a number, followed from what was met last, go where up to as many rounds of the
relation lead from what was met at all, provided that what was met earlier leads nowhere else. -/
theorem testBit_atMost (h : Follows n round leads) (count : Nat) :
    ∀ latest met, Within n met → (∀ i, latest.testBit i = true → met.testBit i = true) →
      (∀ i j, met.testBit i = true → latest.testBit i = false → leads i j →
        met.testBit j = true) → ∀ j,
      (atMost round count latest met).testBit j = true ↔
        ∃ i m, met.testBit i = true ∧ m ≤ count ∧ Rounds leads m i j := by
  induction count with
  | zero =>
    intro latest met _ _ _ j
    constructor
    · exact fun hj => ⟨j, 0, hj, le_refl 0, .none j⟩
    · rintro ⟨i, m, hi, hm, hrounds⟩
      obtain rfl := Nat.le_zero.mp hm
      cases hrounds
      exact hi
  | succ count ih =>
    intro latest met hmet hlatest hearlier j
    have hround := h.testBit_iff latest fun i hi => hmet i (hlatest i hi)
    -- What is found is what a round reaches and was not met.
    have hfound : ∀ i, (round latest ^^^ (round latest &&& met)).testBit i = true ↔
        (∃ k, latest.testBit k = true ∧ leads k i) ∧ met.testBit i = false := by
      intro i
      rw [← hround i, Nat.testBit_xor, Nat.testBit_and]
      cases (round latest).testBit i <;> cases met.testBit i <;> simp
    -- What is met leads to what is met or found.
    have honward : ∀ i k, met.testBit i = true → leads i k →
        met.testBit k = true ∨ (round latest ^^^ (round latest &&& met)).testBit k = true := by
      intro i k hi hik
      cases hk : met.testBit k with
      | true => exact .inl rfl
      | false =>
        cases hnew : latest.testBit i with
        | true => exact .inr ((hfound k).mpr ⟨⟨i, hnew, hik⟩, hk⟩)
        | false =>
          rw [hearlier i k hi hnew hik] at hk
          cases hk
    unfold atMost
    dsimp only
    split
    · next hnothing =>
      have hclosed : ∀ i k, met.testBit i = true → leads i k → met.testBit k = true := by
        intro i k hi hik
        rcases honward i k hi hik with hk | hk
        · exact hk
        · rw [hnothing, Nat.zero_testBit] at hk
          cases hk
      constructor
      · exact fun hj => ⟨j, 0, hj, Nat.zero_le _, .none j⟩
      · rintro ⟨i, m, hi, -, hrounds⟩
        induction hrounds with
        | none => exact hi
        | more first _ ihrounds => exact ihrounds (hclosed _ _ hi first)
    · next hsome =>
      rw [ih]
      · constructor
        · rintro ⟨i, m, hi, hm, hrounds⟩
          rw [Nat.testBit_or, Bool.or_eq_true, hfound] at hi
          rcases hi with hi | ⟨⟨k, hk, hki⟩, _⟩
          · exact ⟨i, m, hi, Nat.le_succ_of_le hm, hrounds⟩
          · exact ⟨k, m + 1, hlatest k hk, Nat.succ_le_succ hm, .more hki hrounds⟩
        · rintro ⟨i, m, hi, hm, hrounds⟩
          cases hrounds with
          | none => exact ⟨j, 0, by rw [Nat.testBit_or, hi, Bool.true_or], Nat.zero_le _, .none j⟩
          | @more m _ k _ first others =>
            refine ⟨k, m, ?_, Nat.le_of_succ_le_succ hm, others⟩
            rw [Nat.testBit_or, Bool.or_eq_true]
            exact honward i k hi first
      · intro i hi
        rw [Nat.testBit_or, Bool.or_eq_true, hfound] at hi
        rcases hi with hi | ⟨⟨k, _, hki⟩, _⟩
        · exact hmet i hi
        · exact h.le_length k i hki
      · intro i hi
        rw [Nat.testBit_or, hi, Bool.or_true]
      · intro i k hi hold hik
        rw [Nat.testBit_or, hold, Bool.or_false] at hi
        rw [Nat.testBit_or, Bool.or_eq_true]
        exact honward i k hi hik

end Follows

/-! ## Laying an expression over a text -/

/-- The bit at a place tells about the item at the place. -/
theorem testBit_bitsWhere {α : Type} (p : α → Bool) (xs : List α) (i : Nat) :
    (bitsWhere p xs).testBit i = xs[i]?.any p := by
  induction xs generalizing i with
  | nil => simp [bitsWhere_nil]
  | cons x xs ih =>
    rw [bitsWhere_cons]
    cases i with
    | zero =>
      rw [Nat.testBit_zero]
      cases hx : p x <;> simp [hx]
    | succ i =>
      have hhalf : (2 * bitsWhere p xs + (p x).toNat) / 2 = bitsWhere p xs := by
        have hbit := Bool.toNat_le (p x)
        omega
      rw [Nat.testBit_succ, hhalf, ih, List.getElem?_cons_succ]

/-- All positions of a text are those up to its length. -/
theorem testBit_allPositions (n i : Nat) : (allPositions n).testBit i = true ↔ i ≤ n := by
  change (2 ^ (n + 1) - 1).testBit i = true ↔ i ≤ n
  rw [Nat.testBit_two_pow_sub_one, decide_eq_true_iff, Nat.lt_succ_iff]

/-- The truths of an assertion, in the order of the positions. -/
theorem getElem?_truths (a : Assertion) (cs : List Char) :
    ∀ (before : Option Char) (i : Nat), (a.truths before cs)[i]?.any id = true ↔
      i ≤ cs.length ∧
        a.holds (if i = 0 then before else charBefore cs i) cs[i]? = true := by
  induction cs with
  | nil =>
    intro before i
    cases i with
    | zero => simp [Assertion.truths]
    | succ i => simp [Assertion.truths]
  | cons c cs ih =>
    intro before i
    cases i with
    | zero => simp [Assertion.truths]
    | succ i =>
      rw [Assertion.truths, List.getElem?_cons_succ, ih, List.length_cons, Nat.succ_le_succ_iff,
        List.getElem?_cons_succ]
      cases i with
      | zero => rfl
      | succ i => rfl

/-- An assertion is laid over the positions at which it holds. -/
theorem testBit_assertion (a : Assertion) (cs : List Char) (i : Nat) :
    (a.positions none cs).testBit i = true ↔
      i ≤ cs.length ∧ a.holds (charBefore cs i) cs[i]? = true := by
  unfold Assertion.positions
  rw [testBit_bitsWhere, getElem?_truths]
  cases i <;> rfl

/-- A set is laid over the positions of its members. -/
theorem testBit_positions (set : CharSet) (cs : List Char) (i : Nat) :
    (set.positions cs).testBit i = true ↔ ∃ c, cs[i]? = some c ∧ set.contains c = true := by
  unfold CharSet.positions
  rw [testBit_bitsWhere, Option.any_eq_true]

/-- Staying at some positions leads from each of them to itself. -/
theorem follows_stay {n positions : Nat} {holds : Nat → Prop}
    (h : ∀ i, positions.testBit i = true ↔ i ≤ n ∧ holds i) :
    Follows n (· &&& positions) (fun i j => i = j ∧ i ≤ n ∧ holds i) where
  testBit_iff start _ j := by
    rw [Nat.testBit_and, Bool.and_eq_true, h]
    constructor
    · exact fun ⟨hj, hholds⟩ => ⟨j, hj, rfl, hholds⟩
    · rintro ⟨i, hi, rfl, hholds⟩
      exact ⟨hi, hholds⟩
  le := by
    rintro i j ⟨rfl, _⟩
    exact le_refl i
  le_length := by
    rintro i j ⟨rfl, hi, _⟩
    exact hi

/-- An expression never leads back or out of the text, so only what is reached has to be shown. -/
theorem follows_leads {cs : List Char} {r : Regex} {round : Nat → Nat}
    (h : ∀ start, Within cs.length start → ∀ j,
      (round start).testBit j = true ↔ ∃ i, start.testBit i = true ∧ r.Leads cs i j) :
    Follows cs.length round (r.Leads cs) :=
  ⟨h, fun _ _ hleads => hleads.bounds.1, fun _ _ hleads => hleads.bounds.2⟩

/-- The matcher goes where the expression leads. -/
theorem follows_reach (cs : List Char) (r : Regex) :
    Follows cs.length ((locate cs r).reach cs.length) (r.Leads cs) := by
  induction r with
  | empty =>
    have hall (i : Nat) : (allPositions cs.length).testBit i = true ↔ i ≤ cs.length ∧ True :=
      (testBit_allPositions cs.length i).trans (and_iff_left trivial).symm
    have hstay := follows_stay hall
    simp only [and_true] at hstay
    exact hstay
  | step set =>
    refine follows_leads fun start _ j => ?_
    change ((start &&& set.positions cs) <<< 1).testBit j = true ↔ _
    rw [Nat.testBit_shiftLeft, Bool.and_eq_true, decide_eq_true_iff, Nat.testBit_and,
      Bool.and_eq_true, testBit_positions]
    constructor
    · rintro ⟨hj, hi, hc⟩
      exact ⟨j - 1, hi, (Nat.sub_add_cancel hj).symm, hc⟩
    · rintro ⟨i, hi, rfl, hc⟩
      exact ⟨Nat.le_add_left 1 i, hi, hc⟩
  | assertion a => exact follows_stay (testBit_assertion a cs)
  | sequence r s ihr ihs =>
    refine follows_leads fun start hstart k => ?_
    change ((locate cs s).reach cs.length ((locate cs r).reach cs.length start)).testBit k = true ↔
      ∃ i, start.testBit i = true ∧ ∃ j, r.Leads cs i j ∧ s.Leads cs j k
    rw [ihs.testBit_iff _ (ihr.within hstart)]
    constructor
    · rintro ⟨j, hj, hs⟩
      obtain ⟨i, hi, hr⟩ := (ihr.testBit_iff start hstart j).mp hj
      exact ⟨i, hi, j, hr, hs⟩
    · rintro ⟨i, hi, j, hr, hs⟩
      exact ⟨j, (ihr.testBit_iff start hstart j).mpr ⟨i, hi, hr⟩, hs⟩
  | either r s ihr ihs =>
    refine follows_leads fun start hstart j => ?_
    change ((locate cs r).reach cs.length start ||| (locate cs s).reach cs.length start).testBit j =
      true ↔ ∃ i, start.testBit i = true ∧ (r.Leads cs i j ∨ s.Leads cs i j)
    rw [Nat.testBit_or, Bool.or_eq_true, ihr.testBit_iff start hstart,
      ihs.testBit_iff start hstart, ← exists_or]
    simp only [and_or_left]
  | repeated r least most ih =>
    refine follows_leads fun start hstart j => ?_
    have hfirst := ih.testBit_exactly least start hstart
    have hwithin : Within cs.length (exactly ((locate cs r).reach cs.length) least start) := by
      intro k hk
      obtain ⟨i, hi, hrounds⟩ := (hfirst k).mp hk
      exact hrounds.le_of_le ih.le_length (hstart i hi)
    change (atMost ((locate cs r).reach cs.length) _ _ _).testBit j = true ↔ _
    rw [ih.testBit_atMost _ _ _ hwithin (fun _ h => h)
      (fun i k hi hno => by rw [hi] at hno; cases hno)]
    constructor
    · rintro ⟨k, m, hk, hm, hmore⟩
      obtain ⟨i, hi, hrounds⟩ := (hfirst k).mp hk
      refine ⟨i, hi, hstart i hi, least + m, Nat.le_add_right _ _, ?_,
        Rounds.add_iff.mpr ⟨k, hrounds, hmore⟩⟩
      rintro limit rfl
      dsimp only at hm
      omega
    · rintro ⟨i, hi, _, count, hleast, hmost, hrounds⟩
      obtain ⟨m, rfl⟩ := Nat.exists_eq_add_of_le hleast
      obtain ⟨k, hbefore, hafter⟩ := Rounds.add_iff.mp hrounds
      have hk := (hfirst k).mpr ⟨i, hi, hbefore⟩
      cases most with
      | some limit =>
        have hlimit := hmost limit rfl
        exact ⟨k, m, hk, by dsimp only; omega, hafter⟩
      | none =>
        -- Without a limit, rounds that stay in place are left out.
        obtain ⟨m', hm', hshort⟩ := hafter.exists_le ih.le
        have hj := hafter.le_of_le ih.le_length (hwithin k hk)
        exact ⟨k, m', hk, by dsimp only; omega, hshort⟩

/-! ## Searching -/

/-- A search succeeds exactly when the expression leads from some position of the text to some
other. -/
theorem search_iff (r : Regex) (text : String) :
    r.search text = true ↔ ∃ i j, r.Leads text.toList i j := by
  have hall : Within text.toList.length (allPositions text.toList.length) :=
    fun i hi => (testBit_allPositions _ i).mp hi
  have hreach := (follows_reach text.toList r).testBit_iff _ hall
  rw [search_eq, bne_iff_ne, ← String.length_toList]
  constructor
  · intro hsome
    by_contra hnone
    refine hsome (Nat.zero_of_testBit_eq_false fun j => ?_)
    rw [Bool.eq_false_iff]
    intro hj
    obtain ⟨i, _, hleads⟩ := (hreach j).mp hj
    exact hnone ⟨i, j, hleads⟩
  · rintro ⟨i, j, hleads⟩ hzero
    have hi := hleads.bounds.1.trans hleads.bounds.2
    have hj := (hreach j).mpr ⟨i, (testBit_allPositions _ i).mpr hi, hleads⟩
    rw [hzero, Nat.zero_testBit] at hj
    cases hj

/-- What the matcher reaches from the first position tells whether the whole text is matched. -/
theorem matchesWhole_iff (r : Regex) (text : String) :
    r.matchesWhole text = true ↔ r.Covers text := by
  have hfirst (i : Nat) : (1 : Nat).testBit i = true ↔ i = 0 := by
    rw [← Nat.pow_zero 2, Nat.testBit_two_pow, decide_eq_true_iff, eq_comm]
  have hwithin : Within text.toList.length 1 :=
    fun i hi => ((hfirst i).mp hi).symm ▸ Nat.zero_le _
  change ((locate text.toList r).reach text.toList.length 1).testBit _ = true ↔ _
  rw [(follows_reach text.toList r).testBit_iff 1 hwithin]
  simp only [hfirst, exists_eq_left]
  rfl

instance (r : Regex) (text : String) : Decidable (r.Covers text) :=
  decidable_of_iff _ (matchesWhole_iff r text)

/-- Only the first position is the start of the text. -/
theorem leads_textStart {cs : List Char} {i j : Nat} :
    (assertion .textStart).Leads cs i j ↔ i = 0 ∧ j = 0 := by
  constructor
  · rintro ⟨rfl, hi, hstart⟩
    cases i with
    | zero => exact ⟨rfl, rfl⟩
    | succ i =>
      rw [Assertion.holds, charBefore, List.getElem?_eq_getElem hi] at hstart
      cases hstart
  · rintro ⟨rfl, rfl⟩
    exact ⟨rfl, Nat.zero_le _, rfl⟩

/-- Only the last position is the end of the text. -/
theorem leads_textEnd {cs : List Char} {i j : Nat} :
    (assertion .textEnd).Leads cs i j ↔ i = cs.length ∧ j = cs.length := by
  constructor
  · rintro ⟨rfl, hi, hend⟩
    rw [Assertion.holds, Option.isNone_iff_eq_none, List.getElem?_eq_none_iff] at hend
    exact ⟨hi.antisymm hend, hi.antisymm hend⟩
  · rintro ⟨rfl, rfl⟩
    exact ⟨rfl, le_refl _, by rw [Assertion.holds, List.getElem?_eq_none (le_refl _)]; rfl⟩

/-- Between the start and the end of the text, an expression is found exactly in the texts that it
matches as a whole. -/
theorem search_anchored_iff (r : Regex) (text : String) :
    (sequence (assertion .textStart) (sequence r (assertion .textEnd))).search text = true ↔
      r.Covers text := by
  rw [search_iff]
  constructor
  · rintro ⟨i, l, j, hstart, k, hr, hend⟩
    obtain ⟨-, rfl⟩ := leads_textStart.mp hstart
    obtain ⟨rfl, -⟩ := leads_textEnd.mp hend
    exact hr
  · intro hr
    exact ⟨0, _, 0, leads_textStart.mpr ⟨rfl, rfl⟩, _, hr, leads_textEnd.mpr ⟨rfl, rfl⟩⟩

end QueryGate.Regex
