import QueryGate.Plugin.Builtin
import QueryGate.Proofs.Joining
import QueryGate.Proofs.Merging
import QueryGate.Proofs.Passing

/-!
# Reading texts one after the other

A text that follows another on a line of its own is cut into groups as if it stood alone, unless a
backslash at the end of the first text hides the line end. Reading both texts together therefore
comes to reading each of them and merging what they declare, and an error in a group of the first
text stays the same, with the same number, whatever balanced text follows.
-/

namespace QueryGate

open QueryGate.Text

/-! ## Cutting outside brackets -/

namespace Brackets

/-- The parts of a text and, behind them, those of a text that goes on where it ends. -/
def glue (first : List Char) (others : List (List Char)) (more : List Char × List (List Char)) :
    List Char × List (List Char) :=
  match others with
  | [] => (first ++ more.1, more.2)
  | second :: others => (first, (glue second others more).1 :: (glue second others more).2)

/-- Text in front of the first part stays in front of it. -/
theorem glue_cons (c : Char) (first : List Char) (others : List (List Char))
    (more : List Char × List (List Char)) :
    glue (c :: first) others more =
      ([c] ++ (glue first others more).1, (glue first others more).2) := by
  cases others <;> rfl

/-- Behind a text that ends at a delimiter, other parts follow. -/
theorem glue_nil (first : List Char) (others parts : List (List Char)) :
    (glue first others ([], parts)).1 :: (glue first others ([], parts)).2 =
      first :: others ++ parts := by
  induction others generalizing first with
  | nil => simp [glue]
  | cons second others ih =>
    rw [glue, ih]
    rfl

/-- A blank behind a text makes no difference to its parts once they are trimmed. -/
theorem map_trim_glue_blank {b : Char} (hb : isBlank b = true) (first : List Char)
    (others : List (List Char)) :
    ((glue first others ([b], [])).1 :: (glue first others ([b], [])).2).map trim =
      (first :: others).map trim := by
  induction others generalizing first with
  | nil => simp [glue, trim_append_blank hb]
  | cons second others ih =>
    rw [glue, List.map_cons, ih]
    rfl

variable {isDelimiter : Char → Bool} {depth : Nat}

/-- A text without backslashes is cut as it is alone when more text follows it. -/
theorem splitFrom_append {cs rest first : List Char} {others : List (List Char)}
    {more : List Char × List (List Char)} (hplain : '\\' ∉ cs)
    (hcs : splitFrom isDelimiter depth cs = .ok (first, others))
    (hrest : splitFrom isDelimiter 0 rest = .ok more) :
    splitFrom isDelimiter depth (cs ++ rest) = .ok (glue first others more) := by
  have hscans := scans_splitFrom isDelimiter
  fun_induction splitFrom isDelimiter depth cs generalizing first others with
  | case1 =>
    cases hcs
    exact hrest
  | case2 => cases hcs
  | case3 => simp at hplain
  | case4 => simp at hplain
  | case5 depth cs _ ih =>
    obtain ⟨kept, hkept, rfl⟩ := keep_eq_ok_iff.mp hcs
    rw [List.mem_cons, not_or] at hplain
    rw [List.cons_append, hscans.opening, ih hplain.2 hkept]
    exact congrArg Except.ok (glue_cons _ _ _ _).symm
  | case6 => cases hcs
  | case7 depth cs hdepth _ _ ih =>
    obtain ⟨kept, hkept, rfl⟩ := keep_eq_ok_iff.mp hcs
    rw [List.mem_cons, not_or] at hplain
    obtain ⟨outer, rfl⟩ := Nat.exists_eq_succ_of_ne_zero hdepth
    rw [List.cons_append, hscans.closing]
    refine (congrArg (keep [']']) (ih hplain.2 hkept)).trans ?_
    exact congrArg Except.ok (glue_cons _ _ _ _).symm
  | case8 depth c cs hescape hopening hclosing hcut first' others' hfirst ih =>
    cases hcs
    rw [List.mem_cons, not_or] at hplain
    rw [List.cons_append, splitFrom_of_plain _ _ ⟨hescape, hopening, hclosing⟩, if_pos hcut,
      ih hplain.2 hfirst]
    rfl
  | case9 => cases hcs
  | case10 depth c cs hescape hopening hclosing hcut ih =>
    obtain ⟨kept, hkept, rfl⟩ := keep_eq_ok_iff.mp hcs
    rw [List.mem_cons, not_or] at hplain
    rw [List.cons_append, splitFrom_of_plain _ _ ⟨hescape, hopening, hclosing⟩, if_neg hcut,
      ih hplain.2 hkept]
    exact congrArg Except.ok (glue_cons _ _ _ _).symm

end Brackets

/-! ## Lines -/

namespace Policy

/-- A line without the carriage return at its end, if it has one. -/
def withoutReturn (line : List Char) : List Char :=
  if line.getLast? = some '\r' then line.dropLast else line

/-- The lines of a text, every one of which ends with a line feed. -/
def endedLines (cs : List Char) : List (List Char) :=
  (cs.splitOn '\n').map withoutReturn

/-- All lines of a text but the last one are ended, and an empty last one does not count. -/
theorem lines_eq (cs : List Char) :
    lines cs = (cs.splitOn '\n').dropLast.map withoutReturn ++
      (cs.splitOn '\n').getLast?.toList.filter fun line => !line.isEmpty := rfl

/-- Behind a line feed, other lines follow. -/
theorem lines_append (cs ds : List Char) :
    lines (cs ++ '\n' :: ds) = endedLines cs ++ lines ds := by
  have hne := List.splitOn_ne_nil '\n' ds
  rw [lines_eq, lines_eq, splitOn_append, List.dropLast_append_of_ne_nil hne,
    List.getLast?_append_of_ne_nil _ hne, List.map_append, List.append_assoc]
  rfl

/-- A carriage return is left out or there is none. -/
theorem withoutReturn_eq_or (line : List Char) :
    withoutReturn line = line ∨ line = withoutReturn line ++ ['\r'] := by
  unfold withoutReturn
  split
  · next hlast => exact .inr (List.dropLast_append_getLast? _ hlast).symm
  · exact .inl rfl

/-- A blank at the end of a line does not decide whether the line is a comment. -/
theorem isComment_append_blank {b : Char} (hb : isBlank b = true) (line : List Char) :
    isComment (line ++ [b]) = isComment line := by
  have hne : ¬b = '#' := by
    rintro rfl
    revert hb
    decide
  unfold isComment trimStart
  rw [List.dropWhile_append]
  split
  · next hempty => simp [List.isEmpty_iff.mp hempty, hb]
  · next hrest =>
    obtain ⟨c, rest, hcons⟩ := List.exists_cons_of_ne_nil (fun h => hrest (List.isEmpty_iff.mpr h))
    rw [hcons]
    rfl

/-- Nor does the carriage return that belongs to its end. -/
theorem isComment_withoutReturn (line : List Char) :
    isComment (withoutReturn line) = isComment line := by
  rcases withoutReturn_eq_or line with hsame | hreturn
  · rw [hsame]
  · conv_rhs => rw [hreturn, isComment_append_blank (by decide)]

/-- What is left of a text whose lines are all ended, against what is left of the text alone: the
same, a line feed more or a carriage return less. -/
inductive Ended (visible : List Char) : List Char → Prop
  /-- The last line ends like the text. -/
  | same : Ended visible visible
  /-- The last line is the empty one at the end of the text, which does not count there. -/
  | lineFeed : Ended visible (visible ++ ['\n'])
  /-- The carriage return at the end of the text belongs to the end of its last line. -/
  | carriageReturn {start : List Char} (h : visible = start ++ ['\r']) : Ended visible start

/-- The lines of a text that are no comments. -/
def visibleLines (lines : List (List Char)) : List (List Char) :=
  lines.filter fun line => !isComment line

/-- Ending the last line of a text leaves the same, a line feed more or a carriage return less. -/
theorem ended_endedLines (cs : List Char) :
    (visibleLines (endedLines cs) = [] → withoutComments cs = []) ∧
      Ended (withoutComments cs) (['\n'].intercalate (visibleLines (endedLines cs))) := by
  obtain ⟨init, last, hparts⟩ : ∃ init last, cs.splitOn '\n' = init ++ [last] :=
    ⟨_, _, (List.dropLast_append_getLast (List.splitOn_ne_nil '\n' cs)).symm⟩
  have hended : visibleLines (endedLines cs) = visibleLines (init.map withoutReturn) ++
      visibleLines [withoutReturn last] := by
    unfold endedLines visibleLines
    rw [hparts, List.map_append, List.filter_append]
    rfl
  have hvisible : withoutComments cs = ['\n'].intercalate
      (visibleLines (init.map withoutReturn) ++
        visibleLines ([last].filter fun line => !line.isEmpty)) := by
    unfold withoutComments visibleLines
    rw [lines_eq, hparts, List.dropLast_concat, List.getLast?_concat, List.filter_append]
    rfl
  generalize visibleLines (init.map withoutReturn) = before at hended hvisible
  rw [hended, hvisible]
  by_cases hcomment : isComment last = true
  · -- A comment leaves nothing, however its line ends.
    have hlast : visibleLines [withoutReturn last] = [] := by
      simp [visibleLines, isComment_withoutReturn, hcomment]
    have hkept : visibleLines ([last].filter fun line => !line.isEmpty) = [] := by
      unfold visibleLines
      rw [List.filter_filter]
      simp [hcomment]
    rw [hlast, hkept]
    exact ⟨fun h => by rw [h]; rfl, .same⟩
  · have hlast : visibleLines [withoutReturn last] = [withoutReturn last] := by
      simp [visibleLines, isComment_withoutReturn, hcomment]
    rw [hlast]
    refine ⟨fun h => absurd h (by simp), ?_⟩
    by_cases hempty : last = []
    · subst hempty
      by_cases hbefore : before = []
      · subst hbefore
        exact .same
      · rw [intercalate_append hbefore (List.cons_ne_nil _ _)]
        have hnone : before ++ visibleLines ([[]].filter fun line : List Char => !line.isEmpty) =
            before := List.append_nil before
        rw [hnone, show withoutReturn [] = [] from rfl, List.intercalate_singleton, List.append_nil]
        exact .lineFeed
    · have hkept : visibleLines ([last].filter fun line => !line.isEmpty) = [last] := by
        simp [visibleLines, hempty, hcomment]
      rw [hkept]
      rcases withoutReturn_eq_or last with hsame | hreturn
      · rw [hsame]
        exact .same
      · refine .carriageReturn ?_
        rw [← intercalate_concat_append, ← hreturn]

/-- What is left of two texts on lines of their own: what is left of the second one, or what is left
of the first one and, behind a line feed, what is left of the second one. -/
theorem withoutComments_append (cs ds : List Char) :
    (withoutComments cs = [] ∧ withoutComments (cs ++ '\n' :: ds) = withoutComments ds) ∨
      ∃ start, Ended (withoutComments cs) start ∧
        (withoutComments ds = [] ∧ withoutComments (cs ++ '\n' :: ds) = start ∨
          withoutComments (cs ++ '\n' :: ds) = start ++ '\n' :: withoutComments ds) := by
  obtain ⟨hnone, hended⟩ := ended_endedLines cs
  have hboth : withoutComments (cs ++ '\n' :: ds) =
      ['\n'].intercalate (visibleLines (endedLines cs) ++ visibleLines (lines ds)) := by
    unfold withoutComments visibleLines
    rw [lines_append, List.filter_append]
  by_cases hfirst : visibleLines (endedLines cs) = []
  · refine .inl ⟨hnone hfirst, ?_⟩
    rw [hboth, hfirst]
    rfl
  · refine .inr ⟨_, hended, ?_⟩
    by_cases hsecond : visibleLines (lines ds) = []
    · refine .inl ⟨?_, ?_⟩
      · change ['\n'].intercalate (visibleLines (lines ds)) = []
        rw [hsecond]
        rfl
      · rw [hboth, hsecond, List.append_nil]
    · refine .inr ?_
      rw [hboth, intercalate_append hfirst hsecond, List.append_assoc]
      rfl

/-! ## Groups -/

/-- The groups that are not blank. -/
def nonblank (groups : List (List Char)) : List (List Char) :=
  groups.filter fun group => !group.isEmpty

variable {plugins : List Plugin}

/-- A text is read group after group once it is cut. -/
theorem parse_of_split {text : String} {parts : List (List Char)}
    (h : Brackets.split isGroupEnd (withoutComments text.toList) = .ok parts) :
    Policy.parse plugins text = ((parts.map trim).zipIdx 1).foldlM
      (fun policy (group, number) => policy.addGroup plugins number group) empty := by
  unfold Policy.parse
  dsimp only
  rw [h, List.zipIdx_map, List.foldlM_map]
  rfl

/-- Blank groups declare nothing. -/
theorem exists_spelled_nonblank_iff {groups : List (List Char)} {policy next : Policy} :
    (∃ declared, List.Forall₂ (GroupSpelled plugins) (nonblank groups) declared ∧
        next = declared.foldl extend policy) ↔
      ∃ declared, List.Forall₂ (GroupSpelled plugins) groups declared ∧
        next = declared.foldl extend policy := by
  induction groups generalizing policy with
  | nil => rfl
  | cons group groups ih =>
    by_cases hblank : group = []
    · subst hblank
      change (∃ declared, List.Forall₂ (GroupSpelled plugins) (nonblank groups) declared ∧ _) ↔ _
      rw [ih]
      constructor
      · rintro ⟨declared, hdeclared, rfl⟩
        exact ⟨.everywhere [] :: declared, .cons .blank hdeclared, rfl⟩
      · rintro ⟨_, hdeclared, rfl⟩
        cases hdeclared with
        | cons hfirst hothers =>
          cases hfirst with
          | blank => exact ⟨_, hothers, rfl⟩
          | everywhere hne => exact absurd rfl hne
          | scope hfind => cases hfind
    · have hkept : nonblank (group :: groups) = group :: nonblank groups :=
        List.filter_cons_of_pos (by simpa using hblank)
      rw [hkept]
      constructor
      · rintro ⟨_, hdeclared, rfl⟩
        cases hdeclared with
        | @cons _ first _ others hfirst hothers =>
          obtain ⟨declared, hrest, hnext⟩ := (@ih (policy.extend first)).mp ⟨others, hothers, rfl⟩
          exact ⟨first :: declared, .cons hfirst hrest, hnext⟩
      · rintro ⟨_, hdeclared, rfl⟩
        cases hdeclared with
        | @cons _ first _ others hfirst hothers =>
          obtain ⟨declared, hrest, hnext⟩ := (@ih (policy.extend first)).mpr ⟨others, hothers, rfl⟩
          exact ⟨first :: declared, .cons hfirst hrest, hnext⟩

/-- A text is read exactly if those of its groups are that are not blank. -/
theorem parse_eq_ok_iff_nonblank {text : String} {policy : Policy} {parts : List (List Char)}
    (h : Brackets.split isGroupEnd (withoutComments text.toList) = .ok parts) :
    Policy.parse plugins text = .ok policy ↔
      ∃ declared, List.Forall₂ (GroupSpelled plugins) (nonblank (parts.map trim)) declared ∧
        policy = declared.foldl extend empty := by
  rw [exists_spelled_nonblank_iff, parse_eq_ok_iff]
  constructor
  · rintro ⟨declared, ⟨groups, hsplit, hgroups⟩, hpolicy⟩
    rw [h] at hsplit
    cases hsplit
    exact ⟨declared, hgroups, hpolicy⟩
  · rintro ⟨declared, hgroups, hpolicy⟩
    exact ⟨declared, ⟨parts, h, hgroups⟩, hpolicy⟩

/-- Ending the last line of a text adds no more than a blank group. -/
theorem Ended.exists_splitFrom {visible start : List Char} (h : Ended visible start)
    (hplain : '\\' ∉ visible) {parts : List (List Char)}
    (hsplit : Brackets.split isGroupEnd visible = .ok parts) :
    '\\' ∉ start ∧ ∃ first others, Brackets.splitFrom isGroupEnd 0 start = .ok (first, others) ∧
      ∃ blank, nonblank blank = [] ∧ (first :: others).map trim = parts.map trim ++ blank := by
  obtain ⟨first, others, hfrom, rfl⟩ := Brackets.split_eq_ok_iff.mp hsplit
  cases h with
  | same => exact ⟨hplain, first, others, hfrom, [], rfl, (List.append_nil _).symm⟩
  | lineFeed =>
    have hend : Brackets.splitFrom isGroupEnd 0 ['\n'] = .ok ([], [[]]) := rfl
    refine ⟨by simpa using hplain, _, _, Brackets.splitFrom_append hplain hfrom hend, [[]], rfl, ?_⟩
    rw [Brackets.glue_nil, List.map_append]
    rfl
  | carriageReturn hreturn =>
    subst hreturn
    have hstart : '\\' ∉ start := fun hmem => hplain (List.mem_append_left _ hmem)
    have hbalanced : Brackets.Balanced start := by
      have hboth := (Brackets.exists_split_iff isGroupEnd).mp ⟨_, hsplit⟩
      unfold Brackets.Balanced at hboth ⊢
      rwa [Brackets.Signs.depthAfter_concat_of_plain (Brackets.plain_of_isBlank (by decide))]
        at hboth
    obtain ⟨parts, hparts⟩ := (Brackets.exists_split_iff isGroupEnd).mpr hbalanced
    obtain ⟨first', others', hfrom', rfl⟩ := Brackets.split_eq_ok_iff.mp hparts
    have hend : Brackets.splitFrom isGroupEnd 0 ['\r'] = .ok (['\r'], []) := rfl
    rw [Brackets.splitFrom_append hstart hfrom' hend] at hfrom
    obtain ⟨hfirst, hothers⟩ := Prod.mk.inj (Except.ok.inj hfrom)
    refine ⟨hstart, first', others', hfrom', [], rfl, ?_⟩
    rw [← hfirst, ← hothers, Brackets.map_trim_glue_blank (by decide), List.append_nil]

/-- The groups of two texts on lines of their own are those of the second one, if the first one has
none, or those of the first one and behind them, apart from blank ones, those of the second one. -/
theorem exists_split_append {cs ds : List Char} (hplain : '\\' ∉ withoutComments cs)
    {parts others : List (List Char)}
    (hcs : Brackets.split isGroupEnd (withoutComments cs) = .ok parts)
    (hds : Brackets.split isGroupEnd (withoutComments ds) = .ok others) :
    ∃ both, Brackets.split isGroupEnd (withoutComments (cs ++ '\n' :: ds)) = .ok both ∧
      (parts = [[]] ∧ both = others ∨
        ∃ more, both.map trim = parts.map trim ++ more ∧
          nonblank more = nonblank (others.map trim)) := by
  have hnone : ∀ {parts : List (List Char)},
      Brackets.split isGroupEnd [] = .ok parts → parts = [[]] := by
    intro parts hparts
    cases hparts
    rfl
  rcases withoutComments_append cs ds with
    ⟨hempty, hboth⟩ | ⟨start, hended, ⟨hempty, hboth⟩ | hboth⟩
  · rw [hempty] at hcs
    exact ⟨others, hboth ▸ hds, .inl ⟨hnone hcs, rfl⟩⟩
  · obtain ⟨_, first, rest, hfrom, blank, hblank, hmap⟩ := hended.exists_splitFrom hplain hcs
    rw [hempty] at hds
    have hcut := Brackets.split_eq_ok_iff.mpr ⟨_, _, hfrom, rfl⟩
    refine ⟨first :: rest, hboth ▸ hcut, .inr ⟨blank, hmap, ?_⟩⟩
    rw [hblank, hnone hds]
    rfl
  · obtain ⟨hstart, first, rest, hfrom, blank, hblank, hmap⟩ := hended.exists_splitFrom hplain hcs
    obtain ⟨first', rest', hfrom', rfl⟩ := Brackets.split_eq_ok_iff.mp hds
    have hbehind : Brackets.splitFrom isGroupEnd 0 ('\n' :: withoutComments ds) =
        .ok ([], first' :: rest') := by
      rw [Brackets.splitFrom_of_plain _ _ (Brackets.plain_of_isBlank (by decide)), hfrom']
      rfl
    have hcut := Brackets.split_eq_ok_iff.mpr
      ⟨_, _, Brackets.splitFrom_append hstart hfrom hbehind, rfl⟩
    refine ⟨_, hboth ▸ hcut, .inr ⟨blank ++ (first' :: rest').map trim, ?_, ?_⟩⟩
    · rw [Brackets.glue_nil, List.map_append, hmap, List.append_assoc]
    · unfold nonblank at hblank ⊢
      rw [List.filter_append, hblank, List.nil_append]

/-! ## Reading both texts -/

/-- What is left of a text without its comments is text of it and line feeds. -/
theorem mem_of_mem_withoutComments {c : Char} {cs : List Char} (h : c ∈ withoutComments cs) :
    c = '\n' ∨ c ∈ cs := by
  rcases mem_of_mem_intercalate h with hsep | ⟨line, hkept, hc⟩
  · exact .inl (List.mem_singleton.mp hsep)
  · have hline := List.mem_of_mem_filter hkept
    rw [lines_eq] at hline
    rcases List.mem_append.mp hline with hended | hlast
    · obtain ⟨part, hpart, rfl⟩ := List.mem_map.mp hended
      have hmem : c ∈ part := by
        unfold withoutReturn at hc
        split at hc
        · exact List.dropLast_subset _ hc
        · exact hc
      exact .inr (mem_of_mem_splitOn (List.dropLast_subset _ hpart) hmem)
    · have hpart := List.mem_of_getLast? (Option.mem_toList.mp (List.mem_of_mem_filter hlast))
      exact .inr (mem_of_mem_splitOn hpart hc)

/-- Two texts, the first one without backslashes, are read on lines of their own: if both can be
read alone, the policy of the second one is merged into that of the first one, and if the first one
cannot for another reason than its brackets, the same error is found as long as the brackets of the
second one have their partners. -/
theorem parse_append (plugins : List Plugin) {first : String} (hplain : '\\' ∉ first.toList)
    (second : String) :
    (∀ earlier later, Policy.parse plugins first = .ok earlier →
      Policy.parse plugins second = .ok later →
      Policy.parse plugins (first ++ "\n" ++ second) = .ok (earlier.merge later) ∧
        Overlaid earlier later (earlier.merge later)) ∧
    ∀ error, Policy.parse plugins first = .error error →
      (∀ group offset, error ≠ .parse group (.unbalanced offset)) →
      Brackets.Balanced (withoutComments second.toList) →
      Policy.parse plugins (first ++ "\n" ++ second) = .error error := by
  have htext : (first ++ "\n" ++ second).toList = first.toList ++ '\n' :: second.toList := by
    simp
  have hvisible : '\\' ∉ withoutComments first.toList := by
    intro hmem
    rcases mem_of_mem_withoutComments hmem with hsep | hfirst
    · cases hsep
    · exact hplain hfirst
  refine ⟨?_, ?_⟩
  · intro earlier later hearlier hlater
    obtain ⟨_, ⟨parts, hparts, _⟩, _⟩ := parse_eq_ok_iff.mp hearlier
    obtain ⟨_, ⟨others, hothers, _⟩, _⟩ := parse_eq_ok_iff.mp hlater
    obtain ⟨declared, hdeclared, rfl⟩ := (parse_eq_ok_iff_nonblank hparts).mp hearlier
    refine ⟨?_, overlaid_merge _ (distinct_of_parse hlater)⟩
    obtain ⟨declared', hdeclared', rfl⟩ := (parse_eq_ok_iff_nonblank hothers).mp hlater
    obtain ⟨both, hboth, hgroups⟩ := exists_split_append hvisible hparts hothers
    have hnonblank : nonblank (both.map trim) =
        nonblank (parts.map trim) ++ nonblank (others.map trim) := by
      rcases hgroups with ⟨rfl, rfl⟩ | ⟨more, hmap, hmore⟩
      · rfl
      · rw [hmap, ← hmore]
        exact List.filter_append ..
    rw [← htext] at hboth
    rw [merge_foldl_extend, parse_eq_ok_iff_nonblank hboth, hnonblank]
    exact ⟨declared ++ declared', List.rel_append hdeclared hdeclared', (List.foldl_append ..).symm⟩
  · intro error hearlier hother hbalanced
    cases hparts : Brackets.split isGroupEnd (withoutComments first.toList) with
    | error offset =>
      unfold Policy.parse at hearlier
      dsimp only at hearlier
      rw [hparts] at hearlier
      cases hearlier
      exact absurd rfl (hother 0 offset)
    | ok parts =>
      obtain ⟨others, hothers⟩ := (Brackets.exists_split_iff isGroupEnd).mpr hbalanced
      obtain ⟨both, hboth, hgroups⟩ := exists_split_append hvisible hparts hothers
      rw [parse_of_split hparts] at hearlier
      rcases hgroups with ⟨rfl, rfl⟩ | ⟨more, hmap, _⟩
      · cases hearlier
      · rw [← htext] at hboth
        rw [parse_of_split hboth, hmap, List.zipIdx_append, List.foldlM_append, hearlier]
        rfl

/-- A text that declares `q` on every path and `x` on one. -/
def earlierText : String := "q;/a?x"

/-- A text that bounds `x` on that path and declares `y` there. -/
def laterText : String := "# more\r\n/a?x=[1-5]&y"

/-- On lines of their own, the two texts declare `x` in its place with the bounds, and `y` behind
it. A first text that is wrong in its second group is so before the second text too. -/
theorem parse_append_earlierText_laterText :
    Policy.parse Plugin.builtin (earlierText ++ "\n" ++ laterText) =
        .ok ⟨[⟨"q", .any, false⟩], [⟨"/a", [⟨"x", .range 1 5, false⟩, ⟨"y", .any, false⟩]⟩]⟩ ∧
      Policy.parse Plugin.builtin ("q;*&x" ++ "\n" ++ laterText) =
        .error (.parse 2 (.acceptAllNotAlone "*&x")) := by
  have hearlier : Policy.parse Plugin.builtin earlierText =
      .ok ⟨[⟨"q", .any, false⟩], [⟨"/a", [⟨"x", .any, false⟩]⟩]⟩ := by
    have hsplit : Brackets.split isGroupEnd (withoutComments earlierText.toList) =
        .ok [['q'], ['/', 'a', '?', 'x']] := by decide +kernel
    rw [parse_of_split hsplit]
    rfl
  have hlater : Policy.parse Plugin.builtin laterText =
      .ok ⟨[], [⟨"/a", [⟨"x", .range 1 5, false⟩, ⟨"y", .any, false⟩]⟩]⟩ := by
    have hsplit : Brackets.split isGroupEnd (withoutComments laterText.toList) =
        .ok [['/', 'a', '?', 'x', '=', '[', '1', '-', '5', ']', '&', 'y']] := by decide +kernel
    rw [parse_of_split hsplit]
    rfl
  have hwrong : Policy.parse Plugin.builtin "q;*&x" =
      .error (.parse 2 (.acceptAllNotAlone "*&x")) := by
    have hsplit : Brackets.split isGroupEnd (withoutComments "q;*&x".toList) =
        .ok [['q'], ['*', '&', 'x']] := by decide +kernel
    rw [parse_of_split hsplit]
    rfl
  have hbalanced : Brackets.Balanced (withoutComments laterText.toList) := by
    unfold Brackets.Balanced
    decide +kernel
  exact ⟨((parse_append _ (by decide) _).1 _ _ hearlier hlater).1,
    (parse_append _ (by decide) _).2 _ hwrong nofun hbalanced⟩

end Policy

end QueryGate
