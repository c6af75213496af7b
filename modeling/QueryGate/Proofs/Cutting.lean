import QueryGate.Proofs.Passing

/-!
# Cutting loses nothing

Cutting a text at the delimiters outside its brackets takes nothing away but these delimiters: put
back between the parts, they give the text again. No part is cut any further, as the brackets of a
part are its own. The search for a single delimiter stops where the first part ends.
-/

namespace QueryGate.Brackets

open QueryGate.Text

/-- A text that stands behind open brackets is cut into a first part, which closes them, and others.
-/
inductive Cut (isDelimiter : Char → Bool) :
    Nat → List Char → List Char → List (List Char) → Prop
  /-- Nothing is left to be cut. -/
  | nil : Cut isDelimiter 0 [] [] []
  /-- A backslash at the end hides nothing. -/
  | lone : Cut isDelimiter 0 ['\\'] ['\\'] []
  /-- A backslash is kept with the character that it hides. -/
  | escape {depth : Nat} {cs first : List Char} {others : List (List Char)} (c : Char)
      (hrest : Cut isDelimiter depth cs first others) :
      Cut isDelimiter depth ('\\' :: c :: cs) ('\\' :: c :: first) others
  /-- A bracket is opened. -/
  | opening {depth : Nat} {cs first : List Char} {others : List (List Char)}
      (hrest : Cut isDelimiter (depth + 1) cs first others) :
      Cut isDelimiter depth ('[' :: cs) ('[' :: first) others
  /-- A bracket that was opened is closed. -/
  | closing {depth : Nat} {cs first : List Char} {others : List (List Char)}
      (hrest : Cut isDelimiter depth cs first others) :
      Cut isDelimiter (depth + 1) (']' :: cs) (']' :: first) others
  /-- A delimiter outside brackets ends the first part. -/
  | delimiter {c : Char} {cs first : List Char} {others : List (List Char)}
      (hplain : textSigns.Plain c) (hdelimiter : isDelimiter c = true)
      (hrest : Cut isDelimiter 0 cs first others) :
      Cut isDelimiter 0 (c :: cs) [] (first :: others)
  /-- Any other character is no delimiter, or stands inside brackets. -/
  | plain {depth : Nat} {c : Char} {cs first : List Char} {others : List (List Char)}
      (hplain : textSigns.Plain c) (hkept : depth = 0 → isDelimiter c = false)
      (hrest : Cut isDelimiter depth cs first others) :
      Cut isDelimiter depth (c :: cs) (c :: first) others

variable {isDelimiter : Char → Bool} {depth : Nat} {cs first : List Char}
  {others : List (List Char)}

namespace Cut

/-- Text is cut as the relation says. -/
theorem splitFrom_eq (h : Cut isDelimiter depth cs first others) :
    splitFrom isDelimiter depth cs = .ok (first, others) := by
  have hscans := scans_splitFrom isDelimiter
  induction h with
  | nil => rfl
  | lone => rfl
  | escape c _ ih => rw [hscans.escape, ih]; rfl
  | opening _ ih => rw [hscans.opening, ih]; rfl
  | closing _ ih => rw [hscans.closing, ih]; rfl
  | delimiter hplain hdelimiter _ ih => rw [splitFrom_of_plain _ _ hplain, hdelimiter, ih]; rfl
  | plain hplain hkept _ ih => rw [hscans.plain _ _ _ hplain hkept, ih]; rfl

/-- The relation says how text is cut. -/
theorem of_splitFrom (h : splitFrom isDelimiter depth cs = .ok (first, others)) :
    Cut isDelimiter depth cs first others := by
  fun_induction splitFrom isDelimiter depth cs generalizing first others with
  | case1 =>
    cases h
    exact .nil
  | case2 => cases h
  | case3 depth ih =>
    obtain ⟨kept, hkept, rfl⟩ := keep_eq_ok_iff.mp h
    cases ih hkept
    exact .lone
  | case4 depth d rest ih =>
    obtain ⟨kept, hkept, rfl⟩ := keep_eq_ok_iff.mp h
    exact .escape d (ih hkept)
  | case5 depth rest _ ih =>
    obtain ⟨kept, hkept, rfl⟩ := keep_eq_ok_iff.mp h
    exact .opening (ih hkept)
  | case6 => cases h
  | case7 depth rest hdepth _ _ ih =>
    obtain ⟨kept, hkept, rfl⟩ := keep_eq_ok_iff.mp h
    obtain ⟨depth, rfl⟩ := Nat.exists_eq_succ_of_ne_zero hdepth
    exact .closing (ih hkept)
  | case8 depth c rest hescape hopening hclosing hcut first' others' hrest ih =>
    cases h
    obtain ⟨hdepth, hdelimiter⟩ := (Bool.and_eq_true _ _).mp hcut
    cases of_decide_eq_true hdepth
    exact .delimiter ⟨hescape, hopening, hclosing⟩ hdelimiter (ih hrest)
  | case9 => cases h
  | case10 depth c rest hescape hopening hclosing hkept ih =>
    obtain ⟨kept, hcut, rfl⟩ := keep_eq_ok_iff.mp h
    refine .plain ⟨hescape, hopening, hclosing⟩ (fun hdepth => ?_) (ih hcut)
    rw [decide_eq_true hdepth, Bool.true_and] at hkept
    exact Bool.eq_false_iff.mpr hkept

/-- The first part is cut no further behind the brackets that it closes, and neither is any other
part. -/
theorem atomic (h : Cut isDelimiter depth cs first others) :
    Cut isDelimiter depth first first [] ∧ ∀ part ∈ others, Cut isDelimiter 0 part part [] := by
  induction h with
  | nil => exact ⟨.nil, nofun⟩
  | lone => exact ⟨.lone, nofun⟩
  | escape c _ ih => exact ⟨.escape c ih.1, ih.2⟩
  | opening _ ih => exact ⟨.opening ih.1, ih.2⟩
  | closing _ ih => exact ⟨.closing ih.1, ih.2⟩
  | delimiter _ _ _ ih => exact ⟨.nil, List.forall_mem_cons.mpr ih⟩
  | plain hplain hkept _ ih => exact ⟨.plain hplain hkept ih.1, ih.2⟩

/-- The delimiters that were removed, each in front of the part behind it, give the text again. -/
theorem exists_removed (h : Cut isDelimiter depth cs first others) :
    ∃ removed : List Char, removed.length = others.length ∧
      (∀ d ∈ removed, isDelimiter d = true) ∧
      first ++ (List.zipWith List.cons removed others).flatten = cs := by
  have hpassed : ∀ (passed : List Char) {cs first : List Char} {others : List (List Char)},
      (∃ removed : List Char, removed.length = others.length ∧
        (∀ d ∈ removed, isDelimiter d = true) ∧
        first ++ (List.zipWith List.cons removed others).flatten = cs) →
      ∃ removed : List Char, removed.length = others.length ∧
        (∀ d ∈ removed, isDelimiter d = true) ∧
        (passed ++ first) ++ (List.zipWith List.cons removed others).flatten = passed ++ cs := by
    rintro passed cs first others ⟨removed, hlength, hdelimiters, rfl⟩
    exact ⟨removed, hlength, hdelimiters, List.append_assoc ..⟩
  induction h with
  | nil => exact ⟨[], rfl, nofun, rfl⟩
  | lone => exact ⟨[], rfl, nofun, rfl⟩
  | escape c _ ih => exact hpassed ['\\', c] ih
  | opening _ ih => exact hpassed ['['] ih
  | closing _ ih => exact hpassed [']'] ih
  | @delimiter c _ _ _ _ hdelimiter _ ih =>
    obtain ⟨removed, hlength, hdelimiters, rfl⟩ := ih
    exact ⟨c :: removed, congrArg (· + 1) hlength,
      List.forall_mem_cons.mpr ⟨hdelimiter, hdelimiters⟩, rfl⟩
  | @plain _ c _ _ _ _ _ _ ih => exact hpassed [c] ih

/-- The search for the only delimiter finds the end of the first part, unless there is no other. -/
theorem findFrom_eq {needle : Char} (h : Cut (· == needle) depth cs first others) :
    ∃ after, findFrom needle depth cs = .ok (first, after) ∧ (after = none ↔ others = []) := by
  have hscans := scans_findFrom needle
  induction h with
  | nil => exact ⟨none, rfl, iff_of_true rfl rfl⟩
  | lone => exact ⟨none, rfl, iff_of_true rfl rfl⟩
  | escape c _ ih =>
    obtain ⟨after, hfind, hnone⟩ := ih
    exact ⟨after, by rw [hscans.escape, hfind]; rfl, hnone⟩
  | opening _ ih =>
    obtain ⟨after, hfind, hnone⟩ := ih
    exact ⟨after, by rw [hscans.opening, hfind]; rfl, hnone⟩
  | closing _ ih =>
    obtain ⟨after, hfind, hnone⟩ := ih
    exact ⟨after, by rw [hscans.closing, hfind]; rfl, hnone⟩
  | delimiter hplain hdelimiter _ _ =>
    refine ⟨_, by rw [findFrom_of_plain _ _ hplain, hdelimiter]; rfl, ?_⟩
    exact iff_of_false (Option.some_ne_none _) (List.cons_ne_nil _ _)
  | plain hplain hkept _ ih =>
    obtain ⟨after, hfind, hnone⟩ := ih
    exact ⟨after, by rw [hscans.plain _ _ _ hplain hkept, hfind]; rfl, hnone⟩

end Cut

/-- Parts with characters put back between them. -/
def rejoin (removed : List Char) : List (List Char) → List Char
  | [] => []
  | first :: others => first ++ (List.zipWith List.cons removed others).flatten

/-- A text is cut into the parts of the relation. -/
theorem split_eq_ok_iff_cut {parts : List (List Char)} :
    split isDelimiter cs = .ok parts ↔
      ∃ first others, Cut isDelimiter 0 cs first others ∧ parts = first :: others := by
  rw [split_eq_ok_iff]
  constructor
  · rintro ⟨first, others, hfrom, rfl⟩
    exact ⟨first, others, .of_splitFrom hfrom, rfl⟩
  · rintro ⟨first, others, hcut, rfl⟩
    exact ⟨first, others, hcut.splitFrom_eq, rfl⟩

/-- Cutting a text at delimiters loses nothing and leaves nothing to be cut. It succeeds exactly if
the bytes of the text are balanced. Then there are delimiters, one fewer than parts, that give the
text again when they are put back between the parts, and every part is balanced and is cut into
itself alone. In balanced text the search for a single delimiter gives the number of bytes of the
first part as the offset if there are others, and else finds nothing. -/
theorem cutting_is_lossless (isDelimiter : Char → Bool) (cs : List Char) :
    ((∃ parts, split isDelimiter cs = .ok parts) ↔ BytesBalanced (encode cs)) ∧
    (∀ parts, split isDelimiter cs = .ok parts →
      (∃ removed : List Char, removed.length + 1 = parts.length ∧
        (∀ d ∈ removed, isDelimiter d = true) ∧ rejoin removed parts = cs) ∧
      ∀ part ∈ parts, BytesBalanced (encode part) ∧ split isDelimiter part = .ok [part]) ∧
    (BytesBalanced (encode cs) → ∀ needle, ∃ first others,
      split (· == needle) cs = .ok (first :: others) ∧
      (find needle cs).map (Option.map fun found => byteLength found.1) =
        .ok (if others = [] then none else some (byteLength first))) := by
  refine ⟨(exists_split_iff isDelimiter).trans bytesBalanced_encode_iff.symm, ?_, ?_⟩
  · intro parts hsplit
    obtain ⟨first, others, hcut, rfl⟩ := split_eq_ok_iff_cut.mp hsplit
    obtain ⟨removed, hlength, hdelimiters, hrejoin⟩ := hcut.exists_removed
    refine ⟨⟨removed, congrArg (· + 1) hlength, hdelimiters, hrejoin⟩, fun part hpart => ?_⟩
    have hatomic : ∀ part ∈ first :: others, Cut isDelimiter 0 part part [] :=
      List.forall_mem_cons.mpr hcut.atomic
    exact ⟨bytesBalanced_encode_iff.mpr (balanced_of_mem_split hsplit part hpart),
      split_eq_ok_iff_cut.mpr ⟨part, [], hatomic part hpart, rfl⟩⟩
  · intro hbalanced needle
    obtain ⟨parts, hsplit⟩ :=
      (exists_split_iff (· == needle)).mpr (bytesBalanced_encode_iff.mp hbalanced)
    obtain ⟨first, others, hcut, rfl⟩ := split_eq_ok_iff_cut.mp hsplit
    obtain ⟨after, hfind, hnone⟩ := hcut.findFrom_eq
    refine ⟨first, others, hsplit, ?_⟩
    unfold find
    rw [hfind]
    cases after with
    | none => rw [if_pos (hnone.mp rfl)]; rfl
    | some rest => rw [if_neg (mt hnone.mpr (Option.some_ne_none rest))]; rfl

/-- A delimiter in brackets and a hidden one are no cuts. -/
theorem cutting_is_lossless_nested :
    BytesBalanced (encode "é=[b&[c]]&\\&d".toList) ∧
      split (· == '&') "é=[b&[c]]&\\&d".toList = .ok ["é=[b&[c]]".toList, "\\&d".toList] ∧
      split (· == '&') "é=[b&[c]]".toList = .ok ["é=[b&[c]]".toList] ∧
      (∃ removed : List Char, removed.length = 1 ∧
        rejoin removed ["é=[b&[c]]".toList, "\\&d".toList] = "é=[b&[c]]&\\&d".toList) ∧
      (find '&' "é=[b&[c]]&\\&d".toList).map (Option.map fun found => byteLength found.1) =
        .ok (some 10) := by
  have hbalanced : BytesBalanced (encode "é=[b&[c]]&\\&d".toList) := by decide +kernel
  have hsplit : split (· == '&') "é=[b&[c]]&\\&d".toList =
      .ok ["é=[b&[c]]".toList, "\\&d".toList] := by decide +kernel
  obtain ⟨_, hparts, hfind⟩ := cutting_is_lossless (· == '&') "é=[b&[c]]&\\&d".toList
  obtain ⟨⟨removed, hlength, _, hrejoin⟩, hatomic⟩ := hparts _ hsplit
  obtain ⟨first, others, hcut, hoffset⟩ := hfind hbalanced '&'
  obtain ⟨rfl, rfl⟩ := List.cons.inj (Except.ok.inj (hcut.symm.trans hsplit))
  exact ⟨hbalanced, hsplit, (hatomic _ (List.mem_cons_self ..)).2,
    ⟨removed, Nat.succ.inj hlength, hrejoin⟩, hoffset.trans (by decide +kernel)⟩

end QueryGate.Brackets
