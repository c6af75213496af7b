import QueryGate.Proofs.PatternForms
import QueryGate.Proofs.Query
import QueryGate.Proofs.Specificity

/-!
# Nested patterns

A pattern whose only wildcard is its last character matches a rooted path when the text in front of
the wildcard stands in front of the path, which is given a slash at its end. One such pattern
therefore matches everything that another one matches, and more, only if its text is the shorter
one. Every measure of precision follows the text, so the narrower pattern is the more specific one
and is consulted first.
-/

namespace QueryGate.Pattern

open QueryGate.Text

/-! ## Patterns with one wildcard at the end -/

/-- The text is a single wildcard, or it starts with a slash, has one wildcard, which comes last,
and no two slashes in a row. -/
def Trailing (text : String) : Prop :=
  text = "*" ∨ text.toList.head? = some '/' ∧ text.toList.count '*' = 1 ∧
    text.toList.getLast? = some '*' ∧ ¬['/', '/'] <:+: text.toList

/-- The text in front of the wildcard. -/
def trunk (text : String) : List Char :=
  text.toList.dropLast

variable {text path : String}

namespace Trailing

/-- The wildcard follows the trunk. -/
theorem toList_eq (h : Trailing text) : text.toList = trunk text ++ ['*'] := by
  rcases h with rfl | ⟨-, -, hlast, -⟩
  · decide
  · obtain ⟨start, hstart⟩ := List.getLast?_eq_some_iff.mp hlast
    rw [trunk, hstart, List.dropLast_concat]

/-- The trunk has no wildcard. -/
theorem star_not_mem_trunk (h : Trailing text) : '*' ∉ trunk text := by
  have htext := h.toList_eq
  rcases h with rfl | ⟨-, hcount, -, -⟩
  · decide
  · rw [htext, List.count_append, List.count_singleton_self, Nat.add_eq_right] at hcount
    exact List.count_eq_zero.mp hcount

/-- No two slashes follow each other. -/
theorem slashes (h : Trailing text) : ¬['/', '/'] <:+: text.toList := by
  rcases h with rfl | ⟨-, -, -, hslashes⟩
  · simp [List.infix_cons_iff]
  · exact hslashes

/-- The trunk is empty or starts with a slash. -/
theorem trunk_rooted (h : Trailing text) : trunk text = [] ∨ (trunk text).head? = some '/' := by
  have htext := h.toList_eq
  rcases h with rfl | ⟨hhead, -, -, -⟩
  · exact .inl rfl
  · rw [htext] at hhead
    generalize trunk text = start at hhead ⊢
    cases start with
    | nil => cases hhead
    | cons c start => exact .inr hhead

/-- The trunk determines the text. -/
theorem ext {other : String} (h : Trailing text) (hother : Trailing other)
    (htrunk : trunk text = trunk other) : text = other := by
  rw [← String.toList_inj, h.toList_eq, hother.toList_eq, htrunk]

end Trailing

/-- A list of wildcards behind a text without any is one wildcard if the text is followed by one. -/
theorem eq_of_append_replicate {start : List Char} (stem : List Char) {n : Nat}
    (hstart : '*' ∉ start) (h : start ++ ['*'] = stem ++ List.replicate (n + 1) '*') :
    n = 0 ∧ start = stem := by
  rw [List.replicate_succ', ← List.append_assoc] at h
  obtain rfl := List.append_cancel_right h
  cases n with
  | zero => exact ⟨rfl, List.append_nil stem⟩
  | succ n => simp at hstart

/-- The forms of the text in front of a single wildcard at the end, each with the mode of the
pattern. -/
inductive TrunkForm : List Char → Mode → Prop where
  /-- Nothing stands in front. -/
  | nothing : TrunkForm [] .all
  /-- A slash alone stands in front. -/
  | root : TrunkForm ['/'] .all
  /-- A stem stands in front. -/
  | glued {stem : List Char} (hslash : stem.getLast? ≠ some '/') :
    TrunkForm stem (.stem stem false)
  /-- A stem and a slash stand in front. -/
  | boundary (stem : List Char) : TrunkForm (stem ++ ['/']) (.stem stem true)

/-- A pattern with one wildcard at its end has one of the forms. -/
theorem Trailing.form (h : Trailing text) : TrunkForm (trunk text) (Mode.ofText text.toList) := by
  have hform := form_ofText h.slashes
  have hstar := h.star_not_mem_trunk
  generalize Mode.ofText text.toList = mode at hform ⊢
  rw [h.toList_eq] at hform
  generalize trunk text = start at hform hstar ⊢
  generalize hcs : start ++ ['*'] = cs at hform
  cases hform with
  | exact hplain => simp [← hcs] at hplain
  | stars n =>
    obtain ⟨-, rfl⟩ := eq_of_append_replicate [] hstar hcs
    exact .nothing
  | root n =>
    obtain ⟨-, rfl⟩ := eq_of_append_replicate ['/'] hstar hcs
    exact .root
  | @glued stem n hne hplain hslash =>
    obtain ⟨-, rfl⟩ := eq_of_append_replicate stem hstar hcs
    exact .glued hslash
  | @boundary stem n hne hplain hslash =>
    rw [List.append_cons stem] at hcs
    obtain ⟨-, rfl⟩ := eq_of_append_replicate (stem ++ ['/']) hstar hcs
    exact .boundary stem
  | @wildcard before after c hc hne =>
    -- The wildcard with something behind it would be a second one.
    rcases List.eq_nil_or_concat after with rfl | ⟨between, d, rfl⟩
    · cases hc
    · rw [List.concat_eq_append, ← List.cons_append, ← List.append_assoc] at hcs
      obtain ⟨rfl, -⟩ := List.append_inj' hcs rfl
      simp at hstar

/-- A pattern with one wildcard at its end matches the rooted paths that, with a slash behind them,
start with its trunk. -/
theorem Trailing.matchesPath_iff_starts (h : Trailing text)
    (hrooted : path.toList.head? = some '/') :
    (ofText text).matchesPath path = true ↔ trunk text <+: path.toList ++ ['/'] := by
  have hform := h.form
  have hself : text = path → trunk text <+: path.toList := by
    rintro rfl
    rw [h.toList_eq]
    exact List.prefix_append _ _
  rw [matchesPath_iff, List.prefix_concat_iff]
  change text = path ∨ (Mode.ofText text.toList).Admits text path ↔ _
  generalize trunk text = start at hform hself ⊢
  generalize Mode.ofText text.toList = mode at hform ⊢
  cases hform with
  | nothing => exact iff_of_true (.inr trivial) (.inr ⟨_, List.nil_append _⟩)
  | root =>
    obtain ⟨rest, hpath⟩ := List.head?_eq_some_iff.mp hrooted
    exact iff_of_true (.inr trivial) (.inr ⟨rest, hpath.symm⟩)
  | glued hslash =>
    have hno : start ≠ path.toList ++ ['/'] := by
      rintro rfl
      exact hslash List.getLast?_concat
    have hadmits : Mode.Admits (.stem start false) text path ↔ start <+: path.toList :=
      stemMatches_glued_iff
    rw [hadmits, or_iff_right_of_imp hself, or_iff_right hno]
  | boundary stem =>
    have hadmits : Mode.Admits (.stem stem true) text path ↔
        stem ++ ['/'] <+: path.toList ∨ path.toList = stem := stemMatches_boundary_iff
    rw [hadmits, ← or_assoc, or_iff_right_of_imp hself, or_comm, List.append_cancel_right_eq,
      eq_comm]

/-! ## Inclusion -/

/-- One pattern matches all rooted paths that another one matches, which does not match all paths
that the first one does. -/
structure Narrower (inner outer : String) : Prop where
  /-- The outer pattern matches what the inner one matches. -/
  included : ∀ path : String, path.toList.head? = some '/' →
    (ofText inner).matchesPath path = true → (ofText outer).matchesPath path = true
  /-- The outer pattern matches more. -/
  strict : ∃ path, (ofText outer).matchesPath path = true ∧ (ofText inner).matchesPath path = false

/-- A pattern matches whatever path if its trunk is empty. -/
theorem Trailing.matchesPath_of_trunk_nil (h : Trailing text) (hnil : trunk text = [])
    (path : String) : (ofText text).matchesPath path = true := by
  have htext : text = "*" := by
    rw [← String.toList_inj, h.toList_eq, hnil]
    rfl
  subst htext
  exact matchesPath_iff.mpr (.inr trivial)

/-- The narrower pattern has the longer trunk, which starts with that of the wider one. -/
theorem Narrower.trunk_extends {inner outer : String} (h : Narrower inner outer)
    (hinner : Trailing inner) (houter : Trailing outer) :
    trunk outer <+: trunk inner ∧ trunk outer ≠ trunk inner := by
  obtain ⟨strictPath, hmatches, hno⟩ := h.strict
  have hne : trunk outer ≠ trunk inner := by
    intro htrunk
    rw [houter.ext hinner htrunk, hno] at hmatches
    cases hmatches
  refine ⟨?_, hne⟩
  rcases hinner.trunk_rooted with hnil | hrooted
  · rw [hinner.matchesPath_of_trunk_nil hnil strictPath] at hno
    cases hno
  -- A path in the inner pattern starts, with a slash behind it, with the trunk of the outer one.
  have hcovers (tail : List Char) : trunk outer <+: trunk inner ++ tail ++ ['/'] := by
    have htoList : (String.ofList (trunk inner ++ tail)).toList = trunk inner ++ tail :=
      String.toList_ofList
    have hhead : (String.ofList (trunk inner ++ tail)).toList.head? = some '/' := by
      rw [htoList, List.head?_append, hrooted]
      rfl
    have hpath := (hinner.matchesPath_iff_starts hhead).mpr (by
      rw [htoList, List.append_assoc]
      exact List.prefix_append _ _)
    have houterPath := (houter.matchesPath_iff_starts hhead).mp (h.included _ hhead hpath)
    rwa [htoList] at houterPath
  have hslash := hcovers []
  rw [List.append_nil, List.prefix_concat_iff] at hslash
  refine hslash.resolve_left fun heq => ?_
  have hletter := hcovers ['a']
  rw [heq, List.append_assoc, List.prefix_append_right_inj] at hletter
  simp at hletter

/-! ## Precision -/

/-- The number of segments that start in a text, which may stand behind a slash. -/
def segmentStarts : Bool → List Char → Nat
  | _, [] => 0
  | behindSlash, c :: cs =>
    if c = '/' then segmentStarts true cs
    else (if behindSlash then 1 else 0) + segmentStarts false cs

/-- The segments of a text that are not empty are those that start in it. -/
theorem segments_eq_segmentStarts (cs : List Char) :
    ((cs.splitOn '/').filter fun segment => !segment.isEmpty).length = segmentStarts true cs := by
  suffices h : ∃ first others, cs.splitOn '/' = first :: others ∧
      ((first :: others).filter fun segment => !segment.isEmpty).length = segmentStarts true cs ∧
        (others.filter fun segment => !segment.isEmpty).length = segmentStarts false cs by
    obtain ⟨first, others, hsplit, hcount, -⟩ := h
    rw [hsplit, hcount]
  induction cs with
  | nil => exact ⟨[], [], rfl, rfl, rfl⟩
  | cons c cs ih =>
    obtain ⟨first, others, hsplit, hall, hothers⟩ := ih
    rw [List.splitOn_cons_eq_if_modifyHead, hsplit]
    by_cases hc : c = '/'
    · subst hc
      exact ⟨[], first :: others, rfl, by simpa [segmentStarts] using hall, by
        simpa [segmentStarts] using hall⟩
    · refine ⟨c :: first, others, by simp [hc], ?_, ?_⟩
      · simp [segmentStarts, hc, hothers, Nat.add_comm]
      · simp [segmentStarts, hc, hothers]

/-- A wildcard starts no more segments than a text with the wildcard at its end. -/
theorem segmentStarts_star_le (behindSlash : Bool) (tail : List Char) :
    segmentStarts behindSlash ['*'] ≤ segmentStarts behindSlash (tail ++ ['*']) := by
  induction tail generalizing behindSlash with
  | nil => exact le_refl _
  | cons c tail ih =>
    have hbehind := ih true
    have hstar (b : Bool) : segmentStarts b ['*'] = if b then 1 else 0 := by
      simp [segmentStarts]
    rw [hstar] at hbehind ⊢
    cases behindSlash with
    | false => exact Nat.zero_le _
    | true =>
      by_cases hc : c = '/'
      · simpa [segmentStarts, hc] using hbehind
      · simp [segmentStarts, hc]

/-- A longer text in front of a wildcard has no fewer segments. -/
theorem segmentStarts_append_le (behindSlash : Bool) (start tail : List Char) :
    segmentStarts behindSlash (start ++ ['*']) ≤
      segmentStarts behindSlash (start ++ tail ++ ['*']) := by
  induction start generalizing behindSlash with
  | nil => exact segmentStarts_star_le behindSlash tail
  | cons c start ih =>
    simp only [List.cons_append, segmentStarts]
    split
    · exact ih true
    · exact Nat.add_le_add_left (ih false) _

/-- The measures of a pattern with one wildcard at its end. -/
theorem Trailing.specificity_eq (h : Trailing text) : (ofText text).specificity =
    ⟨false, 1, false, segmentStarts true (trunk text ++ ['*']), byteLength (trunk text)⟩ := by
  have hcount : text.toList.count '*' = 1 := by
    rw [h.toList_eq, List.count_append, List.count_eq_zero.mpr h.star_not_mem_trunk]
    rfl
  have hmode : Mode.ofText text.toList ≠ .wildcard := by
    have hform := h.form
    generalize Mode.ofText text.toList = mode at hform
    rintro rfl
    generalize trunk text = start at hform
    cases hform
  have hlength : byteLength text.toList = byteLength (trunk text) + 1 := by
    rw [h.toList_eq, byteLength_append]
    rfl
  have hsegments := segments_eq_segmentStarts text.toList
  rw [h.toList_eq] at hsegments
  simp only [specificity, ofText, hcount, hmode, hlength]
  rw [h.toList_eq, hsegments]
  rfl

/-- Of two specificities that differ in segments and length only, the greater one has no fewer
segments and is longer. -/
theorem Specificity.lt_of_segments_le {a b : Specificity} (hliteral : a.literal = b.literal)
    (hwildcards : a.wildcards = b.wildcards) (hinner : a.inner = b.inner)
    (hsegments : a.segments ≤ b.segments) (hlength : a.literalLength < b.literalLength) :
    a < b := by
  change a.rank < b.rank
  simp only [rank, hliteral, hwildcards, hinner, Prod.Lex.toLex_lt_toLex, lt_self_iff_false,
    true_and, false_or]
  rcases hsegments.lt_or_eq with hlt | heq
  · exact .inl hlt
  · exact .inr ⟨heq, hlength⟩

/-- A longer trunk makes a pattern more specific. -/
theorem Trailing.specificity_lt {inner outer : String} (hinner : Trailing inner)
    (houter : Trailing outer) (hstarts : trunk outer <+: trunk inner)
    (hne : trunk outer ≠ trunk inner) :
    (ofText outer).specificity < (ofText inner).specificity := by
  obtain ⟨tail, htail⟩ := hstarts
  rw [hinner.specificity_eq, houter.specificity_eq, ← htail]
  refine Specificity.lt_of_segments_le rfl rfl rfl (segmentStarts_append_le true _ tail) ?_
  rw [byteLength_append]
  cases tail with
  | nil => exact absurd (by simpa using htail) hne
  | cons c tail =>
    have hsize := c.utf8Size_pos
    exact Nat.lt_add_of_pos_right (Nat.lt_of_lt_of_le hsize (Nat.le_add_right _ _))

/-! ## Consultation -/

/-- Scopes are consulted before those whose patterns theirs precede. -/
theorem pairwise_ordered (scopes : List PreparedScope) :
    (PreparedScope.ordered scopes).Pairwise fun a b => a.pattern.Precedes b.pattern := by
  have hsorted : (PreparedScope.ordered scopes).Pairwise
      fun a b => a.pattern.precedes b.pattern = true := by
    apply List.pairwise_mergeSort
    · intro a b c hab hbc
      exact (precedes_iff _ _).mpr (((precedes_iff _ _).mp hab).trans ((precedes_iff _ _).mp hbc))
    · intro a b
      rw [Bool.or_eq_true, precedes_iff, precedes_iff]
      exact precedes_total a.pattern b.pattern
  exact hsorted.imp fun h => (precedes_iff _ _).mp h

/-- A matching scope that declares a slot is the first one, or the first one is consulted before
it. -/
theorem exists_firstDeclaring {scopes : List PreparedScope} {scope : PreparedScope}
    (hmem : scope ∈ scopes) {path : String} (happlies : scope.appliesTo path = true) {slot : Nat}
    (hdeclares : scope.mask.get slot = true) :
    ∃ found ∈ scopes, found.appliesTo path = true ∧ found.mask.get slot = true ∧
      found.pattern.Precedes scope.pattern ∧ ∀ kept : GlobStore,
        ((PreparedScope.firstDeclaring (PreparedScope.ordered scopes) path slot).run kept).1 =
          some found := by
  have hsorted := (pairwise_ordered scopes).filter fun scope => scope.mask.get slot
  have hplace : scope ∈ (PreparedScope.ordered scopes).filter fun scope => scope.mask.get slot :=
    List.mem_filter.mpr ⟨List.mem_mergeSort.mpr hmem, hdeclares⟩
  have hsome : (((PreparedScope.ordered scopes).filter fun scope => scope.mask.get slot).find?
      (PreparedScope.appliesTo path)).isSome = true :=
    List.find?_isSome.mpr ⟨scope, hplace, happlies⟩
  obtain ⟨found, hfind⟩ := Option.isSome_iff_exists.mp hsome
  obtain ⟨hfound, hslot⟩ := List.mem_filter.mp (List.mem_of_find?_eq_some hfind)
  refine ⟨found, List.mem_mergeSort.mp hfound, List.find?_some hfind, hslot, ?_, fun kept => ?_⟩
  · rcases eq_or_rel_of_find? hsorted hfind hplace happlies with rfl | hprecedes
    · exact .refl _
    · exact hprecedes
  · rw [PreparedScope.yields_firstDeclaring _ path slot kept, hfind]

/-- A pattern does not precede a more specific one. -/
theorem not_precedes_of_specificity_lt {p q : Pattern} (h : q.specificity < p.specificity) :
    ¬q.Precedes p := by
  rintro (hlt | ⟨heq, -⟩)
  · exact hlt.not_gt h
  · exact h.ne heq

/-- Of nested patterns with one wildcard at their end each, the narrower one is more specific. Its
scope is consulted before that of the wider one, and on every path that it matches, a parameter
that it declares is governed by its scope or by one consulted before it that matches the path and
declares the parameter too; never by the scope of the wider pattern, and by its own where no other
scope consulted before it does both. -/
theorem narrower_scope_governs {inner outer : String} (hinner : Trailing inner)
    (houter : Trailing outer) (h : Narrower inner outer) :
    (ofText outer).specificity < (ofText inner).specificity ∧
    ∀ scopes : List PreparedScope,
      ((PreparedScope.ordered scopes).Pairwise fun a b =>
        a.pattern = ofText outer → b.pattern ≠ ofText inner) ∧
      ∀ scope ∈ scopes, scope.pattern = ofText inner → ∀ path, scope.appliesTo path = true →
        ∀ slot, scope.mask.get slot = true →
          ∃ found ∈ scopes, found.appliesTo path = true ∧ found.mask.get slot = true ∧
            (∀ kept : GlobStore, ((PreparedScope.firstDeclaring (PreparedScope.ordered scopes) path
              slot).run kept).1 = some found) ∧
            found.pattern.Precedes (ofText inner) ∧ found.pattern ≠ ofText outer ∧
            ((∀ rival ∈ scopes, rival.pattern.Precedes (ofText inner) →
                rival.appliesTo path = true → rival.mask.get slot = true →
                  rival.pattern = ofText inner) → found.pattern = ofText inner) := by
  obtain ⟨hstarts, hne⟩ := h.trunk_extends hinner houter
  have hspecific := hinner.specificity_lt houter hstarts hne
  have hlater := not_precedes_of_specificity_lt hspecific
  refine ⟨hspecific, fun scopes => ⟨?_, ?_⟩⟩
  · refine (pairwise_ordered scopes).imp ?_
    intro a b hab ha hb
    rw [ha, hb] at hab
    exact hlater hab
  · intro scope hmem hpattern path happlies slot hdeclares
    obtain ⟨found, hfound, hmatches, hslot, hprecedes, hanswer⟩ :=
      exists_firstDeclaring hmem happlies hdeclares
    rw [hpattern] at hprecedes
    refine ⟨found, hfound, hmatches, hslot, hanswer, hprecedes, ?_, ?_⟩
    · intro heq
      exact hlater (heq ▸ hprecedes)
    · exact fun hnone => hnone found hfound hprecedes hmatches hslot

/-- The pattern of everything below a segment is narrower than the one of everything. -/
theorem narrower_below_all : Trailing "/a/*" ∧ Trailing "*" ∧ Narrower "/a/*" "*" := by
  have hinner : Trailing "/a/*" := .inr ⟨by decide, by decide, by decide, by
    simp [List.infix_cons_iff]⟩
  have houter : Trailing "*" := .inl rfl
  exact ⟨hinner, houter, fun path _ _ => houter.matchesPath_of_trunk_nil rfl path,
    "/", by decide, by decide⟩

/-- A scope with a rule for one parameter. -/
def singleScope (pattern : String) : PreparedScope :=
  .ofScope ⟨pattern, [⟨"x", .any, false⟩]⟩ (NameIndex.empty.insert "x")

/-- With no other scope, the scope of everything below a segment governs there. -/
theorem narrower_scope_governs_below :
    let scopes := [singleScope "*", singleScope "/a/*"]
    (ofText "*").specificity < (ofText "/a/*").specificity ∧
      ((PreparedScope.firstDeclaring (PreparedScope.ordered scopes) "/a/c" 0).run (.empty 4)).1 =
        some (singleScope "/a/*") := by
  intro scopes
  obtain ⟨hinner, houter, hnarrower⟩ := narrower_below_all
  obtain ⟨hspecific, hgoverns⟩ := narrower_scope_governs hinner houter hnarrower
  obtain ⟨found, hfound, -, -, hanswer, -, hne, -⟩ := (hgoverns scopes).2 (singleScope "/a/*")
    (by simp [scopes]) rfl "/a/c" (by decide) 0 (by decide)
  refine ⟨hspecific, ?_⟩
  rw [hanswer]
  simp only [scopes, List.mem_cons, List.not_mem_nil, or_false] at hfound
  rcases hfound with rfl | rfl
  · exact absurd rfl hne
  · rfl

/-- A third scope, more specific than both, governs a parameter that the narrower one declares. -/
theorem narrower_scope_overruled :
    let scopes := [singleScope "/a/*", singleScope "*", singleScope "/a/b"]
    (Trailing "/a/*" ∧ Trailing "*" ∧ Narrower "/a/*" "*") ∧
      (singleScope "/a/*").appliesTo "/a/b" = true ∧
      (singleScope "/a/*").mask.get 0 = true ∧
      ((PreparedScope.firstDeclaring (PreparedScope.ordered scopes) "/a/b" 0).run (.empty 4)).1 =
        some (singleScope "/a/b") := by
  intro scopes
  refine ⟨narrower_below_all, by decide, by decide, ?_⟩
  have hmem : singleScope "/a/b" ∈ scopes := by
    simp [scopes]
  have happlies : (singleScope "/a/b").appliesTo "/a/b" = true := by
    decide
  have hdeclares : (singleScope "/a/b").mask.get 0 = true := by
    decide
  obtain ⟨found, hfound, -, -, hprecedes, hanswer⟩ :=
    exists_firstDeclaring hmem happlies hdeclares
  rw [hanswer]
  simp only [scopes, List.mem_cons, List.not_mem_nil, or_false] at hfound
  rcases hfound with rfl | rfl | rfl
  · exact absurd hprecedes (by decide)
  · exact absurd hprecedes (by decide)
  · rfl

end QueryGate.Pattern
