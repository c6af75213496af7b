import QueryGate.Proofs.Matching

/-!
# What a glob matches

A text fills a glob when it is the glob with some run of characters in place of each `*` and, where
single wildcards are wanted, with one character in place of each `?`. The main statement is that an
expression with one part for each character of a glob matches exactly the texts that fill the glob
without a line feed in place of a wildcard. Among the texts without a line feed these are all that
fill the glob.
-/

namespace QueryGate.Glob

open QueryGate.Regex

/-! ## Filling a glob -/

/-- The text is the glob with a run of characters, which may be empty, in place of each `*` and,
with `singles`, one character in place of each `?`. -/
inductive Fills (singles : Bool) : List Char → List Char → Prop where
  /-- Nothing is left of either. -/
  | nothing : Fills singles [] []
  /-- A `*` stands for a run. -/
  | run {glob text : List Char} (run : List Char) (others : Fills singles glob text) :
    Fills singles ('*' :: glob) (run ++ text)
  /-- A `?` stands for one character, if it may. -/
  | single {glob text : List Char} (c : Char) (hsingles : singles = true)
    (others : Fills singles glob text) : Fills singles ('?' :: glob) (c :: text)
  /-- Every other character stands for itself. -/
  | literal {glob text : List Char} {c : Char} (hrun : c ≠ '*') (hsingle : singles = true → c ≠ '?')
    (others : Fills singles glob text) : Fills singles (c :: glob) (c :: text)

/-- The text fills the glob with nothing but `wild` characters in place of the wildcards. -/
inductive FillsWith (wild : Char → Prop) (singles : Bool) : List Char → List Char → Prop where
  /-- Nothing is left of either. -/
  | nothing : FillsWith wild singles [] []
  /-- A `*` stands for a run of wild characters. -/
  | run {glob text : List Char} (run : List Char) (hwild : ∀ c ∈ run, wild c)
    (others : FillsWith wild singles glob text) : FillsWith wild singles ('*' :: glob) (run ++ text)
  /-- A `?` stands for one wild character, if it may. -/
  | single {glob text : List Char} (c : Char) (hsingles : singles = true) (hwild : wild c)
    (others : FillsWith wild singles glob text) : FillsWith wild singles ('?' :: glob) (c :: text)
  /-- Every other character stands for itself, whether it is wild or not. -/
  | literal {glob text : List Char} {c : Char} (hrun : c ≠ '*') (hsingle : singles = true → c ≠ '?')
    (others : FillsWith wild singles glob text) : FillsWith wild singles (c :: glob) (c :: text)

variable {wild : Char → Prop} {singles : Bool} {glob text : List Char}

/-- What fills a glob with wild characters fills it. -/
theorem FillsWith.fills (h : FillsWith wild singles glob text) : Fills singles glob text := by
  induction h with
  | nothing => exact .nothing
  | run run _ _ ih => exact .run run ih
  | single c hsingles _ _ ih => exact .single c hsingles ih
  | literal hrun hsingle _ ih => exact .literal hrun hsingle ih

/-- A text of wild characters fills a glob with wild characters if it fills it at all. -/
theorem fillsWith_iff_fills (hwild : ∀ c ∈ text, wild c) :
    FillsWith wild singles glob text ↔ Fills singles glob text := by
  refine ⟨FillsWith.fills, fun h => ?_⟩
  induction h with
  | nothing => exact .nothing
  | run run _ ih =>
    obtain ⟨hrun, hothers⟩ := List.forall_mem_append.mp hwild
    exact .run run hrun (ih hothers)
  | single c hsingles _ ih =>
    obtain ⟨hc, hothers⟩ := List.forall_mem_cons.mp hwild
    exact .single c hsingles hc (ih hothers)
  | literal hrun hsingle _ ih =>
    exact .literal hrun hsingle (ih (List.forall_mem_cons.mp hwild).2)

/-- The empty text alone fills the empty glob. -/
theorem fillsWith_nil_iff : FillsWith wild singles [] text ↔ text = [] := by
  constructor
  · rintro ⟨⟩
    rfl
  · rintro rfl
    exact .nothing

/-- A `*` is filled by some run of wild characters. -/
theorem fillsWith_run_iff : FillsWith wild singles ('*' :: glob) text ↔
    ∃ run rest, text = run ++ rest ∧ (∀ c ∈ run, wild c) ∧ FillsWith wild singles glob rest := by
  constructor
  · intro h
    cases h with
    | run run hwild others => exact ⟨run, _, rfl, hwild, others⟩
    | literal hrun => exact absurd rfl hrun
  · rintro ⟨run, rest, rfl, hwild, h⟩
    exact .run run hwild h

/-- What stands in front of the wildcards of a glob stands in front of every text that fills it. -/
theorem fillsWith_append_iff {stem : List Char} (hrun : '*' ∉ stem)
    (hsingle : singles = true → '?' ∉ stem) : FillsWith wild singles (stem ++ glob) text ↔
      ∃ rest, text = stem ++ rest ∧ FillsWith wild singles glob rest := by
  induction stem generalizing text with
  | nil => simp
  | cons c stem ih =>
    obtain ⟨hc, hstem⟩ := not_or.mp (mt List.mem_cons.mpr hrun)
    have hsingle' (hsingles : singles = true) := not_or.mp (mt List.mem_cons.mpr (hsingle hsingles))
    constructor
    · intro h
      cases h with
      | run => exact absurd rfl hc
      | single _ hsingles => exact absurd rfl (hsingle' hsingles).1
      | literal _ _ others =>
        obtain ⟨rest, rfl, h⟩ := (ih hstem fun h => (hsingle' h).2).mp others
        exact ⟨rest, rfl, h⟩
    · rintro ⟨rest, rfl, h⟩
      have hothers := (ih hstem fun h => (hsingle' h).2).mpr ⟨rest, rfl, h⟩
      exact .literal (Ne.symm hc) (fun hsingles => Ne.symm (hsingle' hsingles).1) hothers

/-- A text between two `*` is filled by what has it between runs of wild characters. -/
theorem fillsWith_between_iff {inner : List Char} (hrun : '*' ∉ inner)
    (hsingle : singles = true → '?' ∉ inner) :
    FillsWith wild singles ('*' :: inner ++ ['*']) text ↔ ∃ before after,
      text = before ++ inner ++ after ∧ (∀ c ∈ before, wild c) ∧ ∀ c ∈ after, wild c := by
  have hlast {rest : List Char} : FillsWith wild singles ['*'] rest ↔ ∀ c ∈ rest, wild c := by
    simp [fillsWith_run_iff, fillsWith_nil_iff]
  rw [List.cons_append, fillsWith_run_iff]
  simp only [fillsWith_append_iff hrun hsingle, hlast]
  constructor
  · rintro ⟨before, _, rfl, hbefore, after, rfl, hafter⟩
    exact ⟨before, after, (List.append_assoc ..).symm, hbefore, hafter⟩
  · rintro ⟨before, after, rfl, hbefore, hafter⟩
    exact ⟨before, _, List.append_assoc .., hbefore, after, rfl, hafter⟩

/-- Every character may be wild. -/
theorem fills_iff_fillsWith :
    Fills singles glob text ↔ FillsWith (fun _ => True) singles glob text :=
  (fillsWith_iff_fills fun _ _ => trivial).symm

/-- Every glob is filled by its own text. -/
theorem Fills.refl (singles : Bool) (glob : List Char) : Fills singles glob glob := by
  induction glob with
  | nil => exact .nothing
  | cons c glob ih =>
    by_cases hrun : c = '*'
    · subst hrun
      exact .run ['*'] ih
    by_cases hsingle : singles = true ∧ c = '?'
    · obtain ⟨hsingles, rfl⟩ := hsingle
      exact .single '?' hsingles ih
    · exact .literal hrun (fun hsingles hc => hsingle ⟨hsingles, hc⟩) ih

/-- What stands in front of the wildcards of a glob stands in front of every text that fills it. -/
theorem fills_append_iff {stem : List Char} (hrun : '*' ∉ stem)
    (hsingle : singles = true → '?' ∉ stem) :
    Fills singles (stem ++ glob) text ↔ ∃ rest, text = stem ++ rest ∧ Fills singles glob rest := by
  simp only [fills_iff_fillsWith, fillsWith_append_iff hrun hsingle]

/-- A glob without wildcards is filled by its own text only. -/
theorem fills_iff_eq (hrun : '*' ∉ glob) (hsingle : singles = true → '?' ∉ glob) :
    Fills singles glob text ↔ text = glob := by
  rw [← List.append_nil glob, fills_append_iff hrun hsingle]
  simp [fills_iff_fillsWith, fillsWith_nil_iff]

/-- Every text fills a glob of nothing but `*`. -/
theorem fills_replicate (singles : Bool) (n : Nat) (text : List Char) :
    Fills singles (List.replicate (n + 1) '*') text := by
  induction n with
  | zero =>
    have hnothing : Fills singles [] [] := .nothing
    have hfills := Fills.run text hnothing
    rwa [List.append_nil] at hfills
  | succ n ih => exact .run [] ih

/-- A stem in front of nothing but `*` is filled by the texts that start with the stem. -/
theorem fills_stem_iff {stem : List Char} (hplain : '*' ∉ stem) (n : Nat) :
    Fills false (stem ++ List.replicate (n + 1) '*') text ↔ stem <+: text := by
  rw [fills_append_iff hplain Bool.noConfusion]
  simp only [fills_replicate, and_true, List.prefix_iff_exists_append_eq, eq_comm]

/-- A text between two `*` is filled by what contains it. -/
theorem fills_between_iff {inner : List Char} (hrun : '*' ∉ inner)
    (hsingle : singles = true → '?' ∉ inner) :
    Fills singles ('*' :: inner ++ ['*']) text ↔ inner <:+: text := by
  rw [fills_iff_fillsWith, fillsWith_between_iff hrun hsingle]
  simp [List.IsInfix, eq_comm]

/-! ## Expressions for globs -/

/-- The expression for one character of a glob. -/
def part (singles : Bool) (c : Char) : Regex :=
  if c == '*' then (step .notLineFeed).star
  else if singles && c == '?' then step .notLineFeed
  else char c

/-- The one character is the member. -/
theorem contains_only (c d : Char) : (CharSet.only c).contains d = true ↔ d = c := by
  have hcovers : (CharSet.only c).contains d = true ↔ c.toNat ≤ d.toNat ∧ d.toNat ≤ c.toNat := by
    simp [CharSet.contains, CharSet.only, CharSet.covers]
  rw [hcovers, ← Nat.le_antisymm_iff, Char.toNat_inj, eq_comm]

/-- Every character but the line feed is a member. -/
theorem contains_notLineFeed (c : Char) : CharSet.notLineFeed.contains c = true ↔ c ≠ '\n' := by
  have hlast : c.toNat ≤ CharSet.lastCodePoint := by
    have hvalid := c.valid
    simp only [UInt32.isValidChar, Nat.isValidChar] at hvalid
    change c.val.toNat ≤ 0x10FFFF
    omega
  have hcovers : CharSet.notLineFeed.contains c = true ↔ c.toNat ≤ 9 ∨ 11 ≤ c.toNat := by
    simp [CharSet.contains, CharSet.notLineFeed, CharSet.covers, hlast]
  have hfeed : c = '\n' ↔ c.toNat = 10 := by
    rw [← Char.toNat_inj]
    rfl
  rw [hcovers, ne_eq, hfeed]
  omega

variable {cs : List Char} {i j : Nat}

/-- A sequence goes through its first part and then through the others. -/
theorem leads_sequenceAll_cons (r : Regex) (rs : List Regex) :
    (sequenceAll (r :: rs)).Leads cs i j ↔ ∃ k, r.Leads cs i k ∧ (sequenceAll rs).Leads cs k j := by
  cases rs with
  | nil =>
    constructor
    · exact fun h => ⟨j, h, rfl, h.bounds.2⟩
    · rintro ⟨k, h, rfl, -⟩
      exact h
  | cons s rs => rfl

/-- Two sequences one after the other are one. -/
theorem leads_sequenceAll_append (rs ss : List Regex) :
    (sequenceAll (rs ++ ss)).Leads cs i j ↔
      ∃ k, (sequenceAll rs).Leads cs i k ∧ (sequenceAll ss).Leads cs k j := by
  induction rs generalizing i with
  | nil =>
    constructor
    · exact fun h => ⟨i, ⟨rfl, h.bounds.1.trans h.bounds.2⟩, h⟩
    · rintro ⟨k, ⟨rfl, -⟩, h⟩
      exact h
  | cons r rs ih =>
    rw [List.cons_append, leads_sequenceAll_cons]
    simp only [ih, leads_sequenceAll_cons]
    constructor
    · rintro ⟨k, hr, l, hrs, hss⟩
      exact ⟨l, ⟨k, hr, hrs⟩, hss⟩
    · rintro ⟨l, ⟨k, hr, hrs⟩, hss⟩
      exact ⟨k, hr, l, hrs, hss⟩

/-- A step passes the character it stands for. -/
theorem leads_char (c : Char) : (char c).Leads cs i j ↔ j = i + 1 ∧ cs[i]? = some c := by
  simp only [char, Leads, contains_only]
  constructor
  · rintro ⟨hj, d, hd, rfl⟩
    exact ⟨hj, hd⟩
  · rintro ⟨hj, hc⟩
    exact ⟨hj, c, hc, rfl⟩

/-- What is left of a text behind a position starts with the character there. -/
theorem drop_eq_cons_iff {c : Char} {rest : List Char} :
    cs.drop i = c :: rest ↔ cs[i]? = some c ∧ cs.drop (i + 1) = rest := by
  induction cs generalizing i with
  | nil => simp
  | cons d cs ih =>
    cases i with
    | zero => simp
    | succ i => exact ih

/-- A wildcard for one character passes any but the line feed. -/
theorem leads_notLineFeed :
    (step .notLineFeed).Leads cs i j ↔ j = i + 1 ∧ ∃ c, cs[i]? = some c ∧ c ≠ '\n' := by
  simp only [Leads, contains_notLineFeed]

/-- A wildcard for a run leads over every run without a line feed. -/
theorem leads_star_notLineFeed :
    (step .notLineFeed).star.Leads cs i j ↔ i ≤ cs.length ∧
      ∃ run, (∀ c ∈ run, c ≠ '\n') ∧ j = i + run.length ∧ cs.drop i = run ++ cs.drop j := by
  constructor
  · rintro ⟨hi, n, -, -, hrounds⟩
    refine ⟨hi, ?_⟩
    clear hi
    induction hrounds with
    | none i => exact ⟨[], List.forall_mem_nil _, rfl, rfl⟩
    | @more n i j k first _ ih =>
      obtain ⟨rfl, c, hc, hfeed⟩ := leads_notLineFeed.mp first
      obtain ⟨run, hline, rfl, hrest⟩ := ih
      refine ⟨c :: run, List.forall_mem_cons.mpr ⟨hfeed, hline⟩, ?_, ?_⟩
      · rw [List.length_cons]
        omega
      · exact drop_eq_cons_iff.mpr ⟨hc, hrest⟩
  · rintro ⟨hi, run, hline, rfl, hrun⟩
    refine ⟨hi, run.length, Nat.zero_le _, nofun, ?_⟩
    clear hi
    induction run generalizing i with
    | nil => exact .none i
    | cons c run ih =>
      have hend : i + (c :: run).length = i + 1 + run.length := by
        rw [List.length_cons]
        omega
      rw [hend] at hrun ⊢
      obtain ⟨hc, hrest⟩ := drop_eq_cons_iff.mp hrun
      obtain ⟨hfeed, hothers⟩ := List.forall_mem_cons.mp hline
      exact .more (leads_notLineFeed.mpr ⟨rfl, c, hc, hfeed⟩) (ih hothers hrest)

/-- The part of a character that is no wildcard is the character. -/
theorem part_of_literal {c : Char} (hrun : c ≠ '*') (hsingle : ¬(singles = true ∧ c = '?')) :
    part singles c = char c := by
  simp [part, hrun, hsingle]

/-- What the parts of a glob lead over fills the glob without a line feed in place of a
wildcard. -/
theorem fillsWith_of_leads (h : (sequenceAll (glob.map (part singles))).Leads cs i cs.length) :
    FillsWith (· ≠ '\n') singles glob (cs.drop i) := by
  induction glob generalizing i with
  | nil =>
    obtain ⟨rfl, -⟩ := h
    rw [List.drop_length]
    exact .nothing
  | cons c glob ih =>
    rw [List.map_cons, leads_sequenceAll_cons] at h
    obtain ⟨k, hpart, hothers⟩ := h
    have hrest := ih hothers
    by_cases hrun : c = '*'
    · subst hrun
      obtain ⟨-, run, hline, -, htext⟩ := leads_star_notLineFeed.mp hpart
      rw [htext]
      exact .run run hline hrest
    by_cases hsingle : singles = true ∧ c = '?'
    · obtain ⟨rfl, rfl⟩ := hsingle
      obtain ⟨rfl, d, hd, hfeed⟩ := leads_notLineFeed.mp hpart
      rw [drop_eq_cons_iff.mpr ⟨hd, rfl⟩]
      exact .single d rfl hfeed hrest
    · rw [part_of_literal hrun hsingle] at hpart
      obtain ⟨rfl, hc⟩ := (leads_char c).mp hpart
      rw [drop_eq_cons_iff.mpr ⟨hc, rfl⟩]
      exact .literal hrun (fun hsingles hc => hsingle ⟨hsingles, hc⟩) hrest

/-- The parts of a glob lead over a rest of a text that fills it without a line feed in place of a
wildcard. -/
theorem leads_of_fillsWith (hi : i ≤ cs.length) (htext : cs.drop i = text)
    (h : FillsWith (· ≠ '\n') singles glob text) :
    (sequenceAll (glob.map (part singles))).Leads cs i cs.length := by
  induction h generalizing i with
  | nothing => exact ⟨hi.antisymm (List.drop_eq_nil_iff.mp htext), hi⟩
  | @run glob text run hline _ ih =>
    have hend : i + run.length ≤ cs.length := by
      have hlength := congrArg List.length htext
      rw [List.length_drop, List.length_append] at hlength
      omega
    have hrest : cs.drop (i + run.length) = text := by
      rw [← List.drop_drop, htext, List.drop_left]
    rw [List.map_cons, leads_sequenceAll_cons]
    refine ⟨i + run.length, leads_star_notLineFeed.mpr ⟨hi, run, hline, rfl, ?_⟩, ih hend hrest⟩
    rw [htext, hrest]
  | @single glob text c hsingles hline _ ih =>
    subst hsingles
    obtain ⟨hc, hrest⟩ := drop_eq_cons_iff.mp htext
    rw [List.map_cons, leads_sequenceAll_cons]
    have hend := (List.getElem?_eq_some_iff.mp hc).1
    exact ⟨i + 1, leads_notLineFeed.mpr ⟨rfl, c, hc, hline⟩, ih hend hrest⟩
  | @literal glob text c hrun hsingle _ ih =>
    obtain ⟨hc, hrest⟩ := drop_eq_cons_iff.mp htext
    rw [List.map_cons, leads_sequenceAll_cons, part_of_literal hrun fun h => hsingle h.1 h.2]
    have hend := (List.getElem?_eq_some_iff.mp hc).1
    exact ⟨i + 1, (leads_char c).mpr ⟨rfl, hc⟩, ih hend hrest⟩

/-- The parts of a glob match exactly the texts that fill the glob without a line feed in place of a
wildcard. -/
theorem covers_parts_iff_fillsWith (singles : Bool) (glob : List Char) (text : String) :
    (sequenceAll (glob.map (part singles))).Covers text ↔
      FillsWith (· ≠ '\n') singles glob text.toList :=
  ⟨fillsWith_of_leads, leads_of_fillsWith (Nat.zero_le _) List.drop_zero⟩

end QueryGate.Glob
