import QueryGate.Proofs.SettledText
import QueryGate.Regex.Bracket

/-!
# Bracketed sets in front of a closing parenthesis

A bracketed set is read token by token. No token that leaves a closing parenthesis untouched was
disturbed by it, so a set that ends in front of the parenthesis is read as from the text alone.
-/

namespace QueryGate.Regex

open QueryGate.Text

/-! ## Openings and named classes -/

/-- Reading a `^` off leaves the parenthesis alone. -/
theorem splitCaret_append_close (cs more : List Char) :
    splitCaret (cs ++ ')' :: more) = ((splitCaret cs).1, (splitCaret cs).2 ++ ')' :: more) := by
  rcases cs with _ | ⟨c, cs⟩
  · rfl
  by_cases hcaret : c = '^'
  · subst hcaret
    rfl
  · simp [splitCaret, hcaret]

/-- What directly follows an opening bracket, behind what is passed over. -/
theorem readOpening_eq (verbose : Bool) (cs : List Char) :
    readOpening verbose cs =
      match readRun verbose (· == '-') (splitCaret (skip verbose cs)).2 with
      | ([], ']' :: rest) =>
        (.openBracket (splitCaret (skip verbose cs)).1 (.ofLiterals [']']), rest)
      | (dashes, rest) => (.openBracket (splitCaret (skip verbose cs)).1 (.ofLiterals dashes), rest) :=
  rfl

/-- What directly follows an opening bracket. -/
theorem settled_readOpening (verbose : Bool) :
    Settled fun cs => some (readOpening verbose cs) where
  suffix := by
    intro cs token rest h
    have hsuffix := readOpening_suffix verbose cs
    rwa [Option.some.inj h] at hsuffix
  of_append := by
    intro cs token rest more h
    rw [Option.some_inj, readOpening_eq] at h
    rw [Option.some_inj, readOpening_eq]
    -- What is left behind the opening ends what is left behind the blanks in front of it.
    have hleft : rest ++ ')' :: more <:+ skip verbose (cs ++ ')' :: more) := by
      have hrun := (readRun_suffix verbose (· == '-') _).trans
        (splitCaret_suffix (skip verbose (cs ++ ')' :: more)))
      split at h
      · next after heq =>
        rw [← (Prod.mk.inj h).2]
        rw [heq] at hrun
        exact (List.suffix_cons _ after).trans hrun
      · next dashes after _ heq =>
        rw [← (Prod.mk.inj h).2]
        rwa [heq] at hrun
    obtain ⟨used, hused⟩ := hleft
    rw [← List.append_assoc] at hused
    have hskip := skip_of_append _ _ hused.symm
    rw [← hused, splitCaret_append_close] at h
    rw [hskip]
    have hrun {dashes after : List Char}
        (heq : readRun verbose (· == '-') ((splitCaret (used ++ rest)).2 ++ ')' :: more) =
          (dashes, after ++ ')' :: more)) :
        readRun verbose (· == '-') (splitCaret (used ++ rest)).2 = (dashes, after) :=
      Option.some.inj ((settled_readRun verbose (· == '-')).of_append (congrArg some heq))
    split at h
    · next after heq =>
      obtain ⟨rfl, rfl⟩ := Prod.mk.inj h
      have hclose : readRun verbose (· == '-') (splitCaret (used ++ rest)).2 = ([], ']' :: rest) :=
        hrun heq
      rw [hclose]
      rfl
    · next dashes after hno heq =>
      obtain ⟨rfl, rfl⟩ := Prod.mk.inj h
      rw [hrun heq]
      split
      · next after heq' =>
        obtain ⟨rfl, rfl⟩ := Prod.mk.inj heq'
        exact absurd rfl (hno _ rfl)
      · next heq' =>
        obtain ⟨rfl, rfl⟩ := Prod.mk.inj heq'
        rfl

/-- A class name is read between two colons and in front of a bracket. -/
theorem readClassName_eq_some_iff {cs rest : List Char} {set : SetExpr} :
    readClassName cs = some (set, rest) ↔
      ∃ after name, cs = ':' :: after ∧ cutAt? ':' (splitCaret after).2 = some (name, ']' :: rest) ∧
        namedClass? (splitCaret after).1 name = some set := by
  constructor
  · intro h
    unfold readClassName at h
    split at h
    · next after =>
      split at h
      · next name rest' hcut =>
        obtain ⟨set', hset, heq⟩ := Option.map_eq_some_iff.mp h
        obtain ⟨rfl, rfl⟩ := Prod.mk.inj heq
        exact ⟨after, name, rfl, hcut, hset⟩
      · cases h
    · cases h
  · rintro ⟨after, name, rfl, hcut, hset⟩
    simp only [readClassName, hcut, hset, Option.map_some]

/-- A class name is read in front of a closing parenthesis as it is from the text alone. -/
theorem readClassName_append {cs rest : List Char} {set : SetExpr}
    (h : readClassName cs = some (set, rest)) (more : List Char) :
    readClassName (cs ++ ')' :: more) = some (set, rest ++ ')' :: more) := by
  obtain ⟨after, name, rfl, hcut, hset⟩ := readClassName_eq_some_iff.mp h
  refine readClassName_eq_some_iff.mpr ⟨after ++ ')' :: more, name, rfl, ?_, ?_⟩
  · obtain ⟨heq, hname⟩ := cutAt?_eq_some_iff.mp hcut
    rw [splitCaret_append_close, heq, List.append_assoc]
    exact cutAt?_eq_some_iff.mpr ⟨rfl, hname⟩
  · rwa [splitCaret_append_close]

/-- A class name. -/
theorem settled_readClassName : Settled readClassName where
  suffix := readClassName_suffix
  of_append := by
    intro cs set rest more h
    obtain ⟨after, name, hcs, hcut, hset⟩ := readClassName_eq_some_iff.mp h
    have hleft := (cutAt?_suffix hcut).trans (splitCaret_suffix after)
    obtain ⟨used, rfl⟩ := ((List.suffix_cons _ _).trans hleft)
    have hcs' : cs = ':' :: (used ++ rest) := by
      refine List.append_cancel_right (hcs.trans ?_)
      rw [List.cons_append, List.append_assoc]
    subst hcs'
    rw [← List.append_assoc, splitCaret_append_close] at hcut hset
    have halone : cutAt? ':' (splitCaret (used ++ rest)).2 = some (name, ']' :: rest) :=
      (settled_cutAt? ':').of_append hcut
    exact readClassName_eq_some_iff.mpr ⟨used ++ rest, name, rfl, halone, hset⟩

/-! ## Items -/

/-- One end of a range. -/
theorem settled_readSetEscape (verbose : Bool) (c : Char) :
    Settled (readSetEscape verbose c) := by
  by_cases hc : c = '\\'
  · subst hc
    exact settled_readEscapes verbose
  · have halone : readSetEscape verbose c = fun cs => some (.literal c, cs) := by
      funext cs
      simp [readSetEscape, hc]
    rw [halone]
    exact settled_some _

/-- The upper end of a range. -/
theorem settled_readRangeEnd (verbose : Bool) (first : Escape) :
    Settled (readRangeEnd verbose first) :=
  settled_skip verbose _ (fun _ => rfl) fun c =>
    (settled_readSetEscape verbose c).filterMap (range? first)

/-- A closing parenthesis at the end of a text is none of the signs that are looked for ahead. -/
theorem peekPast_append_close {p : Char → Bool} (hp : p ')' = false) (verbose : Bool)
    (cs more : List Char) :
    (peekPast verbose (cs ++ ')' :: more)).any p = (peekPast verbose cs).any p := by
  have hhead (ds : List Char) : (ds ++ ')' :: more).head?.any p = ds.head?.any p := by
    cases ds with
    | nil => exact hp
    | cons d ds => rfl
  unfold peekPast
  cases verbose with
  | false => exact hhead cs
  | true =>
    simp only [if_pos, trimStart_append_close]
    rcases hcs : trimStart cs with _ | ⟨c, ds⟩
    · exact hhead []
    by_cases hsign : c = '#'
    · subst hsign
      simp only [List.cons_append, trimStart_append_close]
      exact hhead (trimStart ds)
    · simp only [List.cons_append]
      split
      · next heq => exact absurd (List.cons.inj heq).1 hsign
      · split
        · next heq => exact absurd (List.cons.inj heq).1 hsign
        · rfl

/-- What follows the first character of an item. -/
theorem settled_readItemEnd (verbose : Bool) (first : Escape) :
    Settled (readItemEnd verbose first) where
  suffix := readItemEnd_suffix
  of_append := by
    intro cs set rest more h
    have halone : Settled fun cs : List Char => first.toSet?.map (·, cs) :=
      (settled_some ()).filterMap fun _ => first.toSet?
    have hpeek (cs : List Char) := peekPast_append_close
      (p := fun d => d == ']' || d == '-') (by decide) verbose cs more
    unfold readItemEnd at h ⊢
    dsimp only at h ⊢
    split at h
    · next after hskip =>
      split at h
      · next hahead =>
        -- The sign is no range here, and it is none if it stands behind the text.
        have hread := halone.of_append h
        split
        · next after' hskip' =>
          rw [skip_append _ hskip'] at hskip
          obtain ⟨-, rfl⟩ := List.cons.inj hskip
          rw [if_pos ((hpeek after').symm.trans hahead)]
          exact hread
        · exact hread
      · next hahead =>
        obtain ⟨used, rfl, hcs⟩ := skip_eq_cons_of_suffix hskip (readRangeEnd_suffix h)
        rw [hpeek] at hahead
        rw [hcs]
        exact (if_neg hahead).trans ((settled_readRangeEnd verbose first).of_append h)
    · next hno =>
      have hread := halone.of_append h
      split
      · next after' hskip' => exact absurd (skip_append _ hskip') (hno _)
      · exact hread

/-- An item. -/
theorem settled_readItem (verbose : Bool) (c : Char) : Settled (readItem verbose c) :=
  (settled_readSetEscape verbose c).bind (settled_readItemEnd verbose)

/-! ## Tokens of a set -/

/-- A closing parenthesis is no sign of an operation. -/
theorem ne_close_of_operationOf? {c : Char} {operation : SetOperation}
    (h : operationOf? c = some operation) : ')' ≠ c := by
  rintro rfl
  cases h

/-- A token of a set that is no bracket. -/
theorem settled_readListed (verbose : Bool) (c : Char) : Settled (readListed verbose c) where
  suffix := readListed_suffix
  of_append := by
    intro cs token rest more h
    have hitem := (settled_readItem verbose c).map SetToken.item
    unfold readListed at h ⊢
    dsimp only at h ⊢
    cases hoperation : operationOf? c with
    | none =>
      rw [hoperation] at h
      exact hitem.of_append h
    | some operation =>
      rw [hoperation] at h
      cases cs with
      | nil =>
        have hclose : ¬ (')' == c) = true := by
          simpa using ne_close_of_operationOf? hoperation
        simp only [List.nil_append, if_neg hclose] at h
        exact hitem.of_append h
      | cons d cs =>
        simp only [List.cons_append] at h
        split at h
        · next hd => exact (if_pos hd).trans ((settled_some _).of_append h)
        · next hd => exact (if_neg hd).trans (hitem.of_append h)

/-- A token of a set. -/
theorem settled_readSetToken (verbose : Bool) (c : Char) :
    Settled (readSetToken verbose c) where
  suffix := readSetToken_suffix
  of_append := by
    intro cs token rest more h
    unfold readSetToken at h ⊢
    split at h
    · split at h
      · next set rest' hclass =>
        obtain ⟨rfl, rfl⟩ := Prod.mk.inj (Option.some.inj h)
        rw [settled_readClassName.of_append hclass]
      · next hnone =>
        have hclass : readClassName cs = none := by
          rw [Option.eq_none_iff_forall_ne_some]
          rintro ⟨set, rest'⟩ hsome
          rw [readClassName_append hsome] at hnone
          cases hnone
        rw [hclass]
        exact (settled_readOpening verbose).of_append h
    · exact (settled_some _).of_append h
    · exact (settled_readListed verbose _).of_append h

/-! ## Whole sets -/

/-- A set is read to its end in front of a closing parenthesis as from the text alone. -/
theorem settled_readMembers (verbose : Bool) (members : Members) (stack : List Waiting) :
    Settled (readMembers verbose members stack) where
  suffix := readMembers_suffix
  of_append := by
    intro cs set rest more h
    induction hlength : cs.length using Nat.strong_induction_on generalizing members stack cs with
    | _ length ih =>
      rw [readMembers_eq] at h
      split at h
      · cases h
      · next c after hskip =>
        obtain ⟨⟨token, left⟩, htoken, h⟩ := Option.bind_eq_some_iff.mp h
        -- The set ends in front of the parenthesis, so its first token does.
        have hleft : rest ++ ')' :: more <:+ left := by
          dsimp only at h
          split at h
          · exact readMembers_suffix h
          · cases h
            exact List.suffix_refl _
          · cases h
        obtain ⟨used, rfl, hcs⟩ :=
          skip_eq_cons_of_suffix hskip (hleft.trans (readSetToken_suffix htoken))
        obtain ⟨behind, rfl⟩ := hleft
        rw [← List.append_assoc] at htoken h
        have halone := (settled_readSetToken verbose c).of_append htoken
        rw [readMembers_eq, hcs]
        refine Option.bind_eq_some_iff.mpr ⟨_, halone, ?_⟩
        dsimp only at h ⊢
        have hshorter := length_lt_of_skip hcs
        have hle := (readSetToken_suffix halone).length_le
        split at h
        · exact ih (behind ++ rest).length (by omega) _ _ h rfl
        · exact (settled_some _).of_append h
        · cases h

/-- A set behind its opening. -/
theorem settled_readBehindOpening (verbose : Bool) (opening : SetToken) :
    Settled (readBehindOpening verbose opening) := by
  cases opening with
  | openBracket negated members => exact settled_readMembers verbose members _
  | close | operation | item => exact settled_none

/-- A bracketed set. -/
theorem settled_readBracket (verbose : Bool) : Settled (readBracket verbose) :=
  (settled_readOpening verbose).bind (settled_readBehindOpening verbose)

end QueryGate.Regex
