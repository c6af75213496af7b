import QueryGate.Policy.Brackets
import QueryGate.Proofs.Bytes
import QueryGate.Proofs.Trimming

/-!
# Balanced text

Brackets are balanced if one pass from left to right finds an open one for each that closes and
none open at the end, where a backslash hides what comes after it. Cutting succeeds exactly on
balanced text, and every part that it gives is balanced again; so is what is left of a part when
its blanks are trimmed, even where a blank was hidden. The count is the same over the bytes of a
text, where a backslash hides one byte only.
-/

namespace QueryGate.Brackets

open QueryGate.Text

/-! ## Counting open brackets -/

/-- The signs that structure a text with brackets. -/
structure Signs (α : Type) where
  /-- Hides what comes after it. -/
  escape : α
  /-- Opens a bracket. -/
  opening : α
  /-- Closes a bracket. -/
  closing : α
  /-- What opens a bracket hides nothing. -/
  opening_ne_escape : opening ≠ escape
  /-- What closes a bracket hides nothing. -/
  closing_ne_escape : closing ≠ escape
  /-- What closes a bracket opens none. -/
  closing_ne_opening : closing ≠ opening

namespace Signs

variable {α : Type} [DecidableEq α]

/-- How many brackets are open behind a text, if `depth` are open before it. There is no answer if
a bracket is closed that was not opened. -/
def depthAfter (signs : Signs α) (depth : Nat) : List α → Option Nat
  | [] => some depth
  | x :: rest =>
    if x = signs.escape then
      match rest with
      | [] => some depth
      | _ :: rest => depthAfter signs depth rest
    else if x = signs.opening then depthAfter signs (depth + 1) rest
    else if x = signs.closing then
      if depth = 0 then none else depthAfter signs (depth - 1) rest
    else depthAfter signs depth rest

/-- Whether something is none of the signs. -/
def Plain (signs : Signs α) (x : α) : Prop :=
  x ≠ signs.escape ∧ x ≠ signs.opening ∧ x ≠ signs.closing

instance (signs : Signs α) (x : α) : Decidable (signs.Plain x) :=
  inferInstanceAs (Decidable (_ ∧ _))

variable {signs : Signs α}

/-- The count goes on behind the first thing of a text, and behind the second if it is hidden. -/
theorem depthAfter_cons (signs : Signs α) (depth : Nat) (x : α) (rest : List α) :
    signs.depthAfter depth (x :: rest) =
      if x = signs.escape then signs.depthAfter depth rest.tail
      else if x = signs.opening then signs.depthAfter (depth + 1) rest
      else if x = signs.closing then
        if depth = 0 then none else signs.depthAfter (depth - 1) rest
      else signs.depthAfter depth rest := by
  cases rest <;> rfl

/-- An escape hides what comes after it. -/
theorem depthAfter_escape (signs : Signs α) (depth : Nat) (rest : List α) :
    signs.depthAfter depth (signs.escape :: rest) = signs.depthAfter depth rest.tail := by
  rw [depthAfter_cons, if_pos rfl]

/-- An opening bracket is counted. -/
theorem depthAfter_opening (signs : Signs α) (depth : Nat) (rest : List α) :
    signs.depthAfter depth (signs.opening :: rest) = signs.depthAfter (depth + 1) rest := by
  rw [depthAfter_cons, if_neg signs.opening_ne_escape, if_pos rfl]

/-- A closing bracket is counted off, if there is an open one. -/
theorem depthAfter_closing (signs : Signs α) (depth : Nat) (rest : List α) :
    signs.depthAfter depth (signs.closing :: rest) =
      if depth = 0 then none else signs.depthAfter (depth - 1) rest := by
  rw [depthAfter_cons, if_neg signs.closing_ne_escape, if_neg signs.closing_ne_opening, if_pos rfl]

/-- What is none of the signs opens and closes nothing. -/
theorem depthAfter_cons_of_plain {x : α} (hx : signs.Plain x) (depth : Nat) (xs : List α) :
    signs.depthAfter depth (x :: xs) = signs.depthAfter depth xs := by
  obtain ⟨hescape, hopening, hclosing⟩ := hx
  rw [depthAfter_cons, if_neg hescape, if_neg hopening, if_neg hclosing]

/-- Text without signs in front of a text opens and closes nothing. -/
theorem depthAfter_append_of_plain {plain : List α} (h : ∀ x ∈ plain, signs.Plain x) (depth : Nat)
    (xs : List α) : signs.depthAfter depth (plain ++ xs) = signs.depthAfter depth xs := by
  induction plain with
  | nil => rfl
  | cons x plain ih =>
    rw [List.forall_mem_cons] at h
    rw [List.cons_append, depthAfter_cons_of_plain h.1, ih h.2]

/-- A last thing that is none of the signs opens and closes nothing, hidden or not. -/
theorem depthAfter_concat_of_plain {x : α} (hx : signs.Plain x) (depth : Nat) (xs : List α) :
    signs.depthAfter depth (xs ++ [x]) = signs.depthAfter depth xs := by
  -- An escape takes two steps at once, so the induction is on the length.
  induction hlength : xs.length using Nat.strongRecOn generalizing depth xs with
  | ind n ih =>
    cases xs with
    | nil => exact depthAfter_cons_of_plain hx depth []
    | cons y rest =>
      rw [List.length_cons] at hlength
      have hrest : ∀ d, signs.depthAfter d (rest ++ [x]) = signs.depthAfter d rest :=
        fun d => ih rest.length (by omega) d rest rfl
      have htail : ∀ d, signs.depthAfter d (rest ++ [x]).tail = signs.depthAfter d rest.tail := by
        intro d
        cases rest with
        | nil => rfl
        | cons z rest => exact ih rest.length (by simp at hlength; omega) d rest rfl
      rw [List.cons_append, depthAfter_cons, depthAfter_cons]
      simp only [hrest, htail]

end Signs

/-- The signs among characters. -/
def textSigns : Signs Char :=
  ⟨'\\', '[', ']', by decide, by decide, by decide⟩

/-- The signs among bytes. -/
def byteSigns : Signs UInt8 :=
  ⟨0x5C, 0x5B, 0x5D, by decide, by decide, by decide⟩

/-- Every bracket of a text has its partner. -/
def Balanced (cs : List Char) : Prop :=
  textSigns.depthAfter 0 cs = some 0

/-- Every bracket among bytes has its partner. -/
def BytesBalanced (bs : List UInt8) : Prop :=
  byteSigns.depthAfter 0 bs = some 0

instance (cs : List Char) : Decidable (Balanced cs) :=
  inferInstanceAs (Decidable (_ = _))

instance (bs : List UInt8) : Decidable (BytesBalanced bs) :=
  inferInstanceAs (Decidable (_ = _))

/-- A blank is none of the signs. -/
theorem plain_of_isBlank {c : Char} (h : isBlank c = true) : textSigns.Plain c := by
  refine ⟨?_, ?_, ?_⟩
  all_goals
    rintro rfl
    revert h
    decide

/-- A text stays balanced when its blanks are trimmed. A blank that is trimmed at the end may have
been hidden, and the backslash before it is left. -/
theorem Balanced.trim {cs : List Char} (h : Balanced cs) : Balanced (trim cs) := by
  have hstart : textSigns.depthAfter 0 (trimStart cs) = some 0 := by
    have hcut := List.takeWhile_append_dropWhile (p := isBlank) (l := cs)
    unfold Balanced at h
    rw [← hcut, Signs.depthAfter_append_of_plain] at h
    · exact h
    · intro c hc
      exact plain_of_isBlank (List.mem_takeWhile_imp hc)
  have hend : ∀ ds : List Char,
      textSigns.depthAfter 0 (trimEnd ds) = textSigns.depthAfter 0 ds := by
    intro ds
    rw [trimEnd_eq_rdropWhile]
    induction ds using List.reverseRecOn with
    | nil => rfl
    | append_singleton ds c ih =>
      rw [List.rdropWhile_concat]
      split
      · next hc => rw [ih, Signs.depthAfter_concat_of_plain (plain_of_isBlank hc)]
      · rfl
  unfold Balanced Text.trim
  rw [hend, hstart]

/-! ## Counting over bytes -/

/-- A sign among bytes stands for the sign among characters. -/
theorem marks_escape : Marks byteSigns.escape textSigns.escape := marks_ofNat '\\' (by decide)

/-- A sign among bytes stands for the sign among characters. -/
theorem marks_opening : Marks byteSigns.opening textSigns.opening := marks_ofNat '[' (by decide)

/-- A sign among bytes stands for the sign among characters. -/
theorem marks_closing : Marks byteSigns.closing textSigns.closing := marks_ofNat ']' (by decide)

/-- The bytes of a character that is none of the signs are none of them either. -/
theorem plain_of_mem_utf8EncodeChar {c : Char} (hc : textSigns.Plain c) :
    ∀ b ∈ String.utf8EncodeChar c, byteSigns.Plain b := by
  intro b hb
  refine ⟨?_, ?_, ?_⟩
  · rintro rfl
    exact hc.1 (marks_escape.eq_of_mem c hb)
  · rintro rfl
    exact hc.2.1 (marks_opening.eq_of_mem c hb)
  · rintro rfl
    exact hc.2.2 (marks_closing.eq_of_mem c hb)

/-- A backslash hides the first byte of a character, and the others are none of the signs. -/
theorem depthAfter_tail_encode_cons (depth : Nat) (c : Char) (cs : List Char) :
    byteSigns.depthAfter depth (encode (c :: cs)).tail =
      byteSigns.depthAfter depth (encode cs) := by
  have hsingle : ∀ b, String.utf8EncodeChar c = [b] →
      byteSigns.depthAfter depth (encode (c :: cs)).tail =
        byteSigns.depthAfter depth (encode cs) := by
    intro b hb
    change byteSigns.depthAfter depth (String.utf8EncodeChar c ++ encode cs).tail = _
    rw [hb]
    rfl
  by_cases hescape : c = textSigns.escape
  · exact hsingle _ (hescape ▸ marks_escape.encode_eq)
  by_cases hopening : c = textSigns.opening
  · exact hsingle _ (hopening ▸ marks_opening.encode_eq)
  by_cases hclosing : c = textSigns.closing
  · exact hsingle _ (hclosing ▸ marks_closing.encode_eq)
  have hplain := plain_of_mem_utf8EncodeChar ⟨hescape, hopening, hclosing⟩
  obtain ⟨b, more, hbytes⟩ := List.exists_cons_of_ne_nil (String.utf8EncodeChar_ne_nil (c := c))
  rw [hbytes, List.forall_mem_cons] at hplain
  change byteSigns.depthAfter depth (String.utf8EncodeChar c ++ encode cs).tail = _
  rw [hbytes, List.cons_append, List.tail_cons, Signs.depthAfter_append_of_plain hplain.2]

/-- The count over the bytes of a text is the count over its characters. -/
theorem depthAfter_encode (depth : Nat) (cs : List Char) :
    byteSigns.depthAfter depth (encode cs) = textSigns.depthAfter depth cs := by
  induction hlength : cs.length using Nat.strongRecOn generalizing depth cs with
  | ind n ih =>
    cases cs with
    | nil => rfl
    | cons c rest =>
      rw [List.length_cons] at hlength
      have hrest : ∀ d, byteSigns.depthAfter d (encode rest) = textSigns.depthAfter d rest :=
        fun d => ih rest.length (by omega) d rest rfl
      have htail : ∀ d, byteSigns.depthAfter d (encode rest).tail =
          textSigns.depthAfter d rest.tail := by
        intro d
        cases rest with
        | nil => rfl
        | cons e rest =>
          rw [depthAfter_tail_encode_cons]
          exact ih rest.length (by simp at hlength; omega) d rest rfl
      have hcons : encode (c :: rest) = String.utf8EncodeChar c ++ encode rest := rfl
      by_cases hescape : c = textSigns.escape
      · rw [hcons, hescape, marks_escape.encode_eq, List.singleton_append, Signs.depthAfter_escape,
          Signs.depthAfter_escape, htail]
      by_cases hopening : c = textSigns.opening
      · rw [hcons, hopening, marks_opening.encode_eq, List.singleton_append,
          Signs.depthAfter_opening, Signs.depthAfter_opening, hrest]
      by_cases hclosing : c = textSigns.closing
      · rw [hcons, hclosing, marks_closing.encode_eq, List.singleton_append,
          Signs.depthAfter_closing, Signs.depthAfter_closing, hrest]
      have hplain : textSigns.Plain c := ⟨hescape, hopening, hclosing⟩
      rw [hcons, Signs.depthAfter_append_of_plain (plain_of_mem_utf8EncodeChar hplain),
        Signs.depthAfter_cons_of_plain hplain, hrest]

/-- The bytes of a text are balanced exactly when the text is. -/
theorem bytesBalanced_encode_iff {cs : List Char} : BytesBalanced (encode cs) ↔ Balanced cs := by
  unfold BytesBalanced Balanced
  rw [depthAfter_encode]

/-! ## Cutting balanced text -/

/-- The count behind the first character of a text. -/
theorem depthAfter_cons_char (depth : Nat) (c : Char) (rest : List Char) :
    textSigns.depthAfter depth (c :: rest) =
      if c = '\\' then textSigns.depthAfter depth rest.tail
      else if c = '[' then textSigns.depthAfter (depth + 1) rest
      else if c = ']' then if depth = 0 then none else textSigns.depthAfter (depth - 1) rest
      else textSigns.depthAfter depth rest :=
  Signs.depthAfter_cons textSigns depth c rest

/-- An opening bracket is counted. -/
theorem depthAfter_open (depth : Nat) (rest : List Char) :
    textSigns.depthAfter depth ('[' :: rest) = textSigns.depthAfter (depth + 1) rest :=
  Signs.depthAfter_opening textSigns depth rest

/-- A result with passed text in front of it is one without. -/
theorem keep_eq_ok_iff {α : Type} {passed first : List Char} {others : α}
    {result : Except Nat (List Char × α)} :
    keep passed result = .ok (first, others) ↔
      ∃ kept, result = .ok (kept, others) ∧ first = passed ++ kept := by
  cases result with
  | error offset => simp [keep]
  | ok parts =>
    obtain ⟨kept, rest⟩ := parts
    simp only [keep, Except.ok.injEq, Prod.mk.injEq]
    constructor
    · rintro ⟨rfl, rfl⟩
      exact ⟨kept, ⟨rfl, rfl⟩, rfl⟩
    · rintro ⟨_, ⟨rfl, rfl⟩, rfl⟩
      exact ⟨rfl, rfl⟩

/-- Passed text in front of a result makes it no failure. -/
theorem exists_keep_iff {α : Type} {passed : List Char} {result : Except Nat (List Char × α)} :
    (∃ parts, keep passed result = .ok parts) ↔ ∃ parts, result = .ok parts := by
  cases result <;> simp [keep]

section Scan

variable {isDelimiter : Char → Bool} {depth : Nat} {cs : List Char}

/-- Text is cut without error exactly if every bracket has its partner. -/
theorem exists_splitFrom_iff (isDelimiter : Char → Bool) :
    (∃ parts, splitFrom isDelimiter depth cs = .ok parts) ↔
      textSigns.depthAfter depth cs = some 0 := by
  fun_induction splitFrom isDelimiter depth cs with
  | case1 => simp [Signs.depthAfter]
  | case2 depth hdepth => simp [Signs.depthAfter, hdepth]
  | case3 depth ih =>
    rw [exists_keep_iff, ih]
    rfl
  | case4 depth d rest ih =>
    rw [exists_keep_iff, ih]
    rfl
  | case5 depth rest _ ih => rw [exists_keep_iff, ih, depthAfter_open]
  | case6 rest => simp [depthAfter_cons_char]
  | case7 depth rest hdepth _ _ ih =>
    rw [exists_keep_iff, ih, depthAfter_cons_char]
    simp [hdepth]
  | case8 depth c rest hescape hopening hclosing _ first others hrest ih =>
    rw [depthAfter_cons_char, if_neg hescape, if_neg hopening, if_neg hclosing, ← ih, hrest]
    simp
  | case9 depth c rest hescape hopening hclosing _ offset hrest ih =>
    rw [depthAfter_cons_char, if_neg hescape, if_neg hopening, if_neg hclosing, ← ih, hrest]
    simp
  | case10 depth c rest hescape hopening hclosing _ ih =>
    rw [exists_keep_iff, ih, depthAfter_cons_char, if_neg hescape, if_neg hopening,
      if_neg hclosing]

/-- The first part of a text closes the brackets that are open before it, and every other part is
balanced on its own. -/
theorem depthAfter_of_splitFrom {first : List Char} {others : List (List Char)}
    (h : splitFrom isDelimiter depth cs = .ok (first, others)) :
    textSigns.depthAfter depth first = some 0 ∧ ∀ part ∈ others, Balanced part := by
  fun_induction splitFrom isDelimiter depth cs generalizing first others with
  | case1 =>
    cases h
    exact ⟨rfl, by simp⟩
  | case2 => cases h
  | case3 depth ih =>
    obtain ⟨kept, hkept, rfl⟩ := keep_eq_ok_iff.mp h
    obtain ⟨hfirst, hothers⟩ := ih hkept
    refine ⟨?_, hothers⟩
    have hnil : kept = [] := by
      unfold splitFrom at hkept
      split at hkept <;> cases hkept
      rfl
    rw [hnil] at hfirst ⊢
    exact hfirst
  | case4 depth d rest ih =>
    obtain ⟨kept, hkept, rfl⟩ := keep_eq_ok_iff.mp h
    obtain ⟨hfirst, hothers⟩ := ih hkept
    exact ⟨hfirst, hothers⟩
  | case5 depth rest _ ih =>
    obtain ⟨kept, hkept, rfl⟩ := keep_eq_ok_iff.mp h
    rw [List.singleton_append, depthAfter_open]
    exact ih hkept
  | case6 => cases h
  | case7 depth rest hdepth _ _ ih =>
    obtain ⟨kept, hkept, rfl⟩ := keep_eq_ok_iff.mp h
    obtain ⟨hfirst, hothers⟩ := ih hkept
    refine ⟨?_, hothers⟩
    rw [List.singleton_append, depthAfter_cons_char]
    simpa [hdepth] using hfirst
  | case8 depth c rest _ _ _ hcut first' others' hrest ih =>
    cases h
    obtain ⟨hdepth, _⟩ := (Bool.and_eq_true _ _).mp hcut
    have hzero : depth = 0 := of_decide_eq_true hdepth
    subst hzero
    obtain ⟨hfirst, hothers⟩ := ih hrest
    exact ⟨rfl, List.forall_mem_cons.mpr ⟨hfirst, hothers⟩⟩
  | case9 => cases h
  | case10 depth c rest hescape hopening hclosing _ ih =>
    obtain ⟨kept, hkept, rfl⟩ := keep_eq_ok_iff.mp h
    rw [List.singleton_append, depthAfter_cons_char, if_neg hescape, if_neg hopening,
      if_neg hclosing]
    exact ih hkept

/-- The first part of a text is cut off before the others. -/
theorem split_eq_ok_iff {parts : List (List Char)} :
    split isDelimiter cs = .ok parts ↔
      ∃ first others, splitFrom isDelimiter 0 cs = .ok (first, others) ∧
        parts = first :: others := by
  unfold split
  cases splitFrom isDelimiter 0 cs with
  | error offset => simp [Except.map]
  | ok cut =>
    obtain ⟨first, others⟩ := cut
    simp [Except.map, eq_comm]

/-- A text is cut without error exactly if it is balanced. -/
theorem exists_split_iff (isDelimiter : Char → Bool) :
    (∃ parts, split isDelimiter cs = .ok parts) ↔ Balanced cs := by
  unfold Balanced
  rw [← exists_splitFrom_iff isDelimiter]
  constructor
  · rintro ⟨parts, hsplit⟩
    obtain ⟨first, others, hfrom, _⟩ := split_eq_ok_iff.mp hsplit
    exact ⟨_, hfrom⟩
  · rintro ⟨⟨first, others⟩, hfrom⟩
    exact ⟨_, split_eq_ok_iff.mpr ⟨first, others, hfrom, rfl⟩⟩

/-- Every part of a text is balanced. -/
theorem balanced_of_mem_split {parts : List (List Char)} (h : split isDelimiter cs = .ok parts) :
    ∀ part ∈ parts, Balanced part := by
  obtain ⟨first, others, hfrom, rfl⟩ := split_eq_ok_iff.mp h
  exact List.forall_mem_cons.mpr (depthAfter_of_splitFrom hfrom)

/-- A search in text whose brackets have their partners succeeds; what it finds parts the text into
text that closes the open brackets and text that is balanced. -/
theorem exists_findFrom (needle : Char) (h : textSigns.depthAfter depth cs = some 0) :
    ∃ before after, findFrom needle depth cs = .ok (before, after) ∧
      ∀ rest, after = some rest → textSigns.depthAfter depth before = some 0 ∧ Balanced rest := by
  fun_induction findFrom needle depth cs with
  | case1 => exact ⟨[], none, rfl, by simp⟩
  | case2 depth hdepth => simp [Signs.depthAfter, hdepth] at h
  | case3 depth ih =>
    obtain ⟨before, after, hfind, hparts⟩ := ih h
    have hnone : after = none := by
      unfold findFrom at hfind
      split at hfind <;> cases hfind
      rfl
    exact ⟨_, _, keep_eq_ok_iff.mpr ⟨before, hfind, rfl⟩, by simp [hnone]⟩
  | case4 depth d rest ih =>
    obtain ⟨before, after, hfind, hparts⟩ := ih h
    exact ⟨_, _, keep_eq_ok_iff.mpr ⟨before, hfind, rfl⟩, hparts⟩
  | case5 depth rest _ ih =>
    rw [depthAfter_open] at h
    obtain ⟨before, after, hfind, hparts⟩ := ih h
    refine ⟨_, _, keep_eq_ok_iff.mpr ⟨before, hfind, rfl⟩, ?_⟩
    rw [List.singleton_append, depthAfter_open]
    exact hparts
  | case6 rest => simp [depthAfter_cons_char] at h
  | case7 depth rest hdepth _ _ ih =>
    rw [depthAfter_cons_char] at h
    obtain ⟨before, after, hfind, hparts⟩ := ih (by simpa [hdepth] using h)
    refine ⟨_, _, keep_eq_ok_iff.mpr ⟨before, hfind, rfl⟩, ?_⟩
    intro behind hbehind
    rw [List.singleton_append, depthAfter_cons_char]
    simpa [hdepth] using hparts behind hbehind
  | case8 depth c rest hescape hopening hclosing hhit =>
    obtain ⟨hdepth, _⟩ := (Bool.and_eq_true _ _).mp hhit
    have hzero : depth = 0 := of_decide_eq_true hdepth
    subst hzero
    rw [depthAfter_cons_char, if_neg hescape, if_neg hopening, if_neg hclosing] at h
    refine ⟨[], some rest, rfl, ?_⟩
    intro behind hbehind
    rw [← Option.some.inj hbehind]
    exact ⟨rfl, h⟩
  | case9 depth c rest hescape hopening hclosing _ ih =>
    rw [depthAfter_cons_char, if_neg hescape, if_neg hopening, if_neg hclosing] at h
    obtain ⟨before, after, hfind, hparts⟩ := ih h
    refine ⟨_, _, keep_eq_ok_iff.mpr ⟨before, hfind, rfl⟩, ?_⟩
    rw [List.singleton_append, depthAfter_cons_char, if_neg hescape, if_neg hopening,
      if_neg hclosing]
    exact hparts

/-- A search in balanced text succeeds, and what it finds parts the text into balanced text. -/
theorem exists_find (needle : Char) (h : Balanced cs) :
    ∃ found, find needle cs = .ok found ∧
      ∀ parts, found = some parts → Balanced parts.1 ∧ Balanced parts.2 := by
  obtain ⟨before, after, hfind, hparts⟩ := exists_findFrom needle h
  refine ⟨after.map fun after => (before, after), ?_, ?_⟩
  · unfold find
    rw [hfind]
    rfl
  · intro parts hmap
    obtain ⟨rest, hrest, rfl⟩ := Option.map_eq_some_iff.mp hmap
    exact hparts rest hrest

/-- Text behind open brackets in which all of them are closed has the bracket that closes the first
of them. -/
theorem exists_closeFrom (h : textSigns.depthAfter (depth + 1) cs = some 0) :
    ∃ parts, closeFrom depth cs = .ok parts := by
  fun_induction closeFrom depth cs with
  | case1 => simp [Signs.depthAfter] at h
  | case2 depth ih => exact exists_keep_iff.mpr (ih h)
  | case3 depth d rest ih => exact exists_keep_iff.mpr (ih h)
  | case4 depth rest _ ih =>
    rw [depthAfter_open] at h
    exact exists_keep_iff.mpr (ih h)
  | case5 rest => exact ⟨_, rfl⟩
  | case6 depth rest hdepth _ _ ih =>
    rw [depthAfter_cons_char] at h
    refine exists_keep_iff.mpr (ih ?_)
    simpa [Nat.sub_add_cancel (Nat.pos_of_ne_zero hdepth)] using h
  | case7 depth c rest hescape hopening hclosing ih =>
    rw [depthAfter_cons_char, if_neg hescape, if_neg hopening, if_neg hclosing] at h
    exact exists_keep_iff.mpr (ih h)

/-- In balanced text that starts with a bracket, this bracket is closed. -/
theorem exists_close (h : Balanced ('[' :: cs)) : ∃ parts, close cs = .ok parts := by
  unfold Balanced at h
  rw [depthAfter_open] at h
  obtain ⟨parts, hparts⟩ := exists_closeFrom h
  refine ⟨parts, ?_⟩
  unfold close
  rw [hparts]
  rfl

end Scan

end QueryGate.Brackets
