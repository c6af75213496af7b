import QueryGate.Proofs.Query
import QueryGate.Regex.Escape

/-!
# Readers in front of a closing parenthesis

A reader gives back an end of the text it was given. Where a closing parenthesis follows a text and
a reader leaves the parenthesis untouched, it has read what it reads from the text alone. This is
shown here for what is passed over, for runs of characters and for escapes. The converse fails: a
comment at the end of a text goes on through the parenthesis.
-/

namespace QueryGate.Regex

open QueryGate.Text

/-! ## Readers that do not look past a closing parenthesis -/

/-- A reader that gives back an end of the text and reads from a text alone what it reads in front
of a closing parenthesis that it leaves untouched. -/
structure Settled {α : Type} (read : List Char → Option (α × List Char)) : Prop where
  /-- An end of the text is left. -/
  suffix : ∀ {cs : List Char} {a : α} {rest : List Char}, read cs = some (a, rest) → rest <:+ cs
  /-- What is read in front of a closing parenthesis without touching it is read from the text
  alone. -/
  of_append : ∀ {cs : List Char} {a : α} {rest more : List Char},
    read (cs ++ ')' :: more) = some (a, rest ++ ')' :: more) → read cs = some (a, rest)

namespace Settled

variable {α β : Type} {read : List Char → Option (α × List Char)}

/-- One reader after the other. -/
theorem bind {next : α → List Char → Option (β × List Char)} (h : Settled read)
    (hnext : ∀ a, Settled (next a)) :
    Settled fun cs => (read cs).bind fun found => next found.1 found.2 where
  suffix hread := by
    obtain ⟨⟨a, after⟩, hfirst, hsecond⟩ := Option.bind_eq_some_iff.mp hread
    exact ((hnext a).suffix hsecond).trans (h.suffix hfirst)
  of_append := by
    intro cs b rest more hread
    obtain ⟨⟨a, after⟩, hfirst, hsecond⟩ := Option.bind_eq_some_iff.mp hread
    -- The second reader leaves the parenthesis, so the first one has left it too.
    obtain ⟨used, rfl⟩ := (hnext a).suffix hsecond
    rw [← List.append_assoc] at hfirst hsecond
    exact Option.bind_eq_some_iff.mpr ⟨_, h.of_append hfirst, (hnext a).of_append hsecond⟩

/-- What is read may be turned into something else, or refused. -/
theorem filterMap (h : Settled read) (f : α → Option β) :
    Settled fun cs => (read cs).bind fun found => (f found.1).map (·, found.2) := by
  have hkeep (a : α) : Settled fun rest : List Char => (f a).map (·, rest) := by
    constructor
    · intro cs b rest hread
      obtain ⟨_, -, heq⟩ := Option.map_eq_some_iff.mp hread
      cases heq
      exact List.suffix_refl _
    · intro cs b rest more hread
      obtain ⟨_, hf, heq⟩ := Option.map_eq_some_iff.mp hread
      obtain ⟨rfl, hrest⟩ := Prod.mk.inj heq
      rw [hf, List.append_cancel_right hrest]
      rfl
  exact h.bind hkeep

/-- What is read may be turned into something else. -/
theorem map (h : Settled read) (f : α → β) :
    Settled fun cs => (read cs).map fun found => (f found.1, found.2) := by
  have hmapped := h.filterMap fun a => some (f a)
  simp only [Option.map_eq_bind]
  exact hmapped

end Settled

/-! ## What is passed over -/

/-- A closing parenthesis that is left was not reached, so the text alone is left alike. -/
theorem skipFrom_of_append {inComment : Bool} {cs rest more : List Char}
    (h : skipFrom inComment (cs ++ ')' :: more) = rest ++ ')' :: more) :
    skipFrom inComment cs = rest := by
  induction cs generalizing inComment with
  | nil =>
    cases inComment with
    | true =>
      -- A comment goes on through the parenthesis.
      have hlength := (skipFrom_suffix true more).length_le
      change skipFrom true more = _ at h
      rw [h, List.length_append, List.length_cons] at hlength
      omega
    | false =>
      have hnone : [] ++ ')' :: more = rest ++ ')' :: more := h
      exact List.append_cancel_right hnone
  | cons c cs ih =>
    rw [List.cons_append, skipFrom] at h
    rw [skipFrom]
    split at h
    · next hcomment =>
      rw [if_pos hcomment]
      exact ih h
    next hcomment =>
    rw [if_neg hcomment]
    split at h
    · next hblank =>
      rw [if_pos hblank]
      exact ih h
    next hblank =>
    rw [if_neg hblank]
    split at h
    · next hsign =>
      rw [if_pos hsign]
      exact ih h
    next hsign =>
    rw [if_neg hsign]
    exact List.append_cancel_right h

/-- Where a text has a first part, it has it whatever follows the text. -/
theorem skipFrom_append {inComment : Bool} {c : Char} {cs rest : List Char} (tail : List Char)
    (h : skipFrom inComment cs = c :: rest) :
    skipFrom inComment (cs ++ tail) = c :: (rest ++ tail) := by
  induction cs generalizing inComment with
  | nil => cases h
  | cons d cs ih =>
    rw [skipFrom] at h
    rw [List.cons_append, skipFrom]
    split at h
    · next hcomment =>
      rw [if_pos hcomment]
      exact ih h
    next hcomment =>
    rw [if_neg hcomment]
    split at h
    · next hblank =>
      rw [if_pos hblank]
      exact ih h
    next hblank =>
    rw [if_neg hblank]
    split at h
    · next hsign =>
      rw [if_pos hsign]
      exact ih h
    next hsign =>
    rw [if_neg hsign]
    cases h
    rfl

variable {verbose : Bool} {c : Char} {cs rest more : List Char}

/-- A closing parenthesis that is left was not reached, so the text alone is left alike. -/
theorem skip_of_append {verbose : Bool} {cs : List Char} (rest more : List Char)
    (h : skip verbose (cs ++ ')' :: more) = rest ++ ')' :: more) :
    skip verbose cs = rest := by
  cases verbose with
  | true => exact skipFrom_of_append h
  | false => exact List.append_cancel_right h

/-- Where a text has a first part, it has it whatever follows the text. -/
theorem skip_append (tail : List Char) (h : skip verbose cs = c :: rest) :
    skip verbose (cs ++ tail) = c :: (rest ++ tail) := by
  cases verbose with
  | true => exact skipFrom_append tail h
  | false =>
    obtain rfl : cs = c :: rest := h
    rfl

/-- In front of a closing parenthesis a text starts with a part of its own if what is left behind the
part ends with the parenthesis. -/
theorem skip_eq_cons_of_suffix {after : List Char}
    (h : skip verbose (cs ++ ')' :: more) = c :: after) (hafter : rest ++ ')' :: more <:+ after) :
    ∃ used, after = used ++ rest ++ ')' :: more ∧ skip verbose cs = c :: (used ++ rest) := by
  obtain ⟨used, rfl⟩ := hafter
  refine ⟨used, (List.append_assoc ..).symm, skip_of_append _ more ?_⟩
  rw [h, List.cons_append, List.append_assoc]

/-- A reader that goes on from the first part of the text. -/
theorem settled_skip {α : Type} {read : List Char → Option (α × List Char)} (verbose : Bool)
    (next : Char → List Char → Option (α × List Char))
    (heq : ∀ cs, read cs = match skip verbose cs with
      | [] => none
      | c :: rest => next c rest) (hnext : ∀ c, Settled (next c)) : Settled read where
  suffix := by
    intro cs a rest h
    rw [heq] at h
    split at h
    · cases h
    · next c after hskip =>
      exact ((hnext c).suffix h).trans
        ((List.suffix_cons c after).trans (hskip ▸ skip_suffix verbose cs))
  of_append := by
    intro cs a rest more h
    rw [heq] at h ⊢
    split at h
    · cases h
    · next c after hskip =>
      obtain ⟨used, rfl, hcs⟩ := skip_eq_cons_of_suffix hskip ((hnext c).suffix h)
      rw [hcs]
      exact (hnext c).of_append h

/-- What is read behind something that is passed over. -/
theorem Settled.behind {α : Type} {read : List Char → Option (α × List Char)} (h : Settled read)
    {behind : List Char → List Char} (hsuffix : ∀ cs, behind cs <:+ cs)
    (hbehind : ∀ {cs rest more : List Char},
      behind (cs ++ ')' :: more) = rest ++ ')' :: more → behind cs = rest) :
    Settled fun cs => read (behind cs) where
  suffix hread := (h.suffix hread).trans (hsuffix _)
  of_append := by
    intro cs a rest more hread
    obtain ⟨used, hused⟩ := h.suffix hread
    rw [← List.append_assoc] at hused
    rw [← hused] at hread
    rw [hbehind hused.symm]
    exact h.of_append hread

/-- What is read from the first part of the text on. -/
theorem Settled.behindSkip {α : Type} {read : List Char → Option (α × List Char)}
    (h : Settled read) (verbose : Bool) : Settled fun cs => read (skip verbose cs) :=
  h.behind (skip_suffix verbose) (skip_of_append _ _)

/-- A reader that reads one thing behind a sign and another thing where the text does not start with
the sign. -/
theorem settled_sign {α : Type} {first other read : List Char → Option (α × List Char)}
    (verbose : Bool) (sign : Char)
    (hfirst : Settled first) (hother : Settled other)
    (hsign : ∀ cs rest, skip verbose cs = sign :: rest → read cs = first rest)
    (hno : ∀ cs, (∀ rest, skip verbose cs ≠ sign :: rest) → read cs = other cs) :
    Settled read where
  suffix := by
    intro cs a rest h
    by_cases hstart : ∃ after, skip verbose cs = sign :: after
    · obtain ⟨after, hskip⟩ := hstart
      rw [hsign cs after hskip] at h
      exact (hfirst.suffix h).trans
        ((List.suffix_cons sign after).trans (hskip ▸ skip_suffix verbose cs))
    · rw [hno cs fun after hskip => hstart ⟨after, hskip⟩] at h
      exact hother.suffix h
  of_append := by
    intro cs a rest more h
    by_cases hstart : ∃ after, skip verbose (cs ++ ')' :: more) = sign :: after
    · obtain ⟨after, hskip⟩ := hstart
      rw [hsign _ after hskip] at h
      obtain ⟨used, rfl, hcs⟩ := skip_eq_cons_of_suffix hskip (hfirst.suffix h)
      rw [hsign cs _ hcs]
      exact hfirst.of_append h
    · -- The text alone starts with the sign only if it does so in front of the parenthesis.
      rw [hno _ fun after hskip => hstart ⟨after, hskip⟩] at h
      rw [hno cs fun after hskip => hstart ⟨_, skip_append _ hskip⟩]
      exact hother.of_append h

/-- A reader that leaves everything. -/
theorem settled_some {α : Type} (a : α) : Settled fun cs : List Char => some (a, cs) where
  suffix h := by
    cases h
    exact List.suffix_refl _
  of_append h := by
    obtain ⟨rfl, hrest⟩ := Prod.mk.inj (Option.some.inj h)
    rw [List.append_cancel_right hrest]

/-- A reader that refuses everything. -/
theorem settled_none {α : Type} : Settled fun _ : List Char => (none : Option (α × List Char)) :=
  ⟨nofun, nofun⟩

/-! ## Runs of characters -/

/-- Behind a run of characters the closing parenthesis is left that does not belong to it. -/
theorem dropWhile_append_close {p : Char → Bool} (hp : p ')' = false) (cs more : List Char) :
    (cs ++ ')' :: more).dropWhile p = cs.dropWhile p ++ ')' :: more := by
  induction cs with
  | nil => exact List.dropWhile_cons_of_neg (by rw [hp]; exact Bool.false_ne_true)
  | cons c cs ih =>
    rw [List.cons_append, List.dropWhile_cons, List.dropWhile_cons, ih]
    cases p c <;> rfl

/-- Leading blanks are those of the text in front of the closing parenthesis. -/
theorem trimStart_append_close (cs more : List Char) :
    trimStart (cs ++ ')' :: more) = trimStart cs ++ ')' :: more :=
  dropWhile_append_close (by decide) cs more

/-- A run of characters with what is passed over in between. -/
theorem readRun_eq (verbose : Bool) (p : Char → Bool) (cs : List Char) :
    readRun verbose p cs = match skip verbose cs with
      | [] => ([], [])
      | c :: rest =>
        if p c then (c :: (readRun verbose p rest).1, (readRun verbose p rest).2)
        else ([], c :: rest) := by
  rw [readRun.eq_def]
  split
  · next h => rw [h]
  · next h => rw [h]

/-- A run of characters that ends in front of a closing parenthesis is that of the text alone. -/
theorem settled_readRun (verbose : Bool) (p : Char → Bool) :
    Settled fun cs => some (readRun verbose p cs) where
  suffix := by
    intro cs run rest h
    have hsuffix := readRun_suffix verbose p cs
    rwa [Option.some.inj h] at hsuffix
  of_append := by
    intro cs run rest more h
    rw [Option.some_inj] at h ⊢
    induction hlength : cs.length using Nat.strong_induction_on generalizing cs run with
    | _ length ih =>
      rw [readRun_eq] at h
      split at h
      · simp at h
      · next c after hskip =>
        split at h
        · next hc =>
          obtain ⟨rfl, hafter⟩ := Prod.mk.inj h
          obtain ⟨used, rfl, hcs⟩ :=
            skip_eq_cons_of_suffix hskip (hafter ▸ readRun_suffix verbose p after)
          have hshorter := length_lt_of_skip hcs
          have hrun := ih _ (hlength ▸ hshorter) (Prod.ext rfl hafter) rfl
          rw [readRun_eq, hcs]
          dsimp only
          rw [if_pos hc, hrun]
        · next hc =>
          obtain ⟨rfl, hafter⟩ := Prod.mk.inj h
          have hcs := skip_of_append _ _ (hskip.trans hafter)
          rw [readRun_eq, hcs]
          cases rest with
          | nil => rfl
          | cons d rest =>
            obtain ⟨rfl, -⟩ := List.cons.inj hafter
            exact if_neg hc

/-- The characters up to a brace with what is passed over in between. -/
theorem readBraced_eq (verbose : Bool) (cs : List Char) :
    readBraced verbose cs = match skip verbose cs with
      | [] => none
      | c :: rest =>
        if c == '\x7d' then some ([], rest)
        else (readBraced verbose rest).map fun (inner, rest) => (c :: inner, rest) := by
  rw [readBraced.eq_def]
  split
  · next h => rw [h]
  · next h => rw [h]

/-- The characters up to a brace. -/
theorem settled_readBraced (verbose : Bool) : Settled (readBraced verbose) where
  suffix := readBraced_suffix
  of_append := by
    intro cs inner rest more h
    induction hlength : cs.length using Nat.strong_induction_on generalizing cs inner with
    | _ length ih =>
      rw [readBraced_eq] at h
      split at h
      · cases h
      · next c after hskip =>
        split at h
        · next hc =>
          obtain ⟨rfl, rfl⟩ := Prod.mk.inj (Option.some.inj h)
          have hcs : skip verbose cs = c :: rest := skip_of_append (c :: rest) more hskip
          rw [readBraced_eq, hcs]
          exact if_pos hc
        · next hc =>
          obtain ⟨⟨inner', rest'⟩, hread, heq⟩ := Option.map_eq_some_iff.mp h
          obtain ⟨rfl, rfl⟩ := Prod.mk.inj heq
          obtain ⟨used, rfl, hcs⟩ := skip_eq_cons_of_suffix hskip (readBraced_suffix hread)
          have hshorter := length_lt_of_skip hcs
          rw [readBraced_eq, hcs]
          dsimp only
          rw [if_neg hc, ih _ (hlength ▸ hshorter) hread rfl]
          rfl

/-- A number of characters. -/
theorem settled_readFixed (verbose : Bool) (n : Nat) : Settled (readFixed verbose n) := by
  induction n with
  | zero => exact settled_some []
  | succ n ih =>
    refine settled_skip verbose
      (fun c rest => (readFixed verbose n rest).map fun found => (c :: found.1, found.2))
      (fun cs => ?_) fun c => ih.map (c :: ·)
    cases hskip : skip verbose cs with
    | nil => simp only [readFixed, hskip]
    | cons c rest => simp only [readFixed, hskip]

/-- The text before and after a separator. -/
theorem cutAt?_eq_some_iff {sep : Char} {cs before after : List Char} :
    cutAt? sep cs = some (before, after) ↔ cs = before ++ sep :: after ∧ sep ∉ before := by
  constructor
  · intro h
    have hparts := List.takeWhile_append_dropWhile (p := (· != sep)) (l := cs)
    unfold cutAt? at h
    split at h
    · cases h
    · next first rest hdrop =>
      cases h
      have hfirst := List.head?_dropWhile_not (· != sep) cs
      rw [hdrop] at hparts hfirst
      simp only [List.head?_cons, bne_eq_false_iff_eq] at hfirst
      subst hfirst
      refine ⟨hparts.symm, fun hmem => ?_⟩
      have hno := List.mem_takeWhile_imp hmem
      simp at hno
  · rintro ⟨rfl, hsep⟩
    exact cutAt?_append hsep

/-- Cutting at a separator. -/
theorem settled_cutAt? (sep : Char) : Settled (cutAt? sep) where
  suffix h := by
    obtain ⟨rfl, -⟩ := cutAt?_eq_some_iff.mp h
    exact (List.suffix_cons sep _).trans (List.suffix_append _ _)
  of_append := by
    intro cs before after more h
    rw [cutAt?_eq_some_iff, ← List.cons_append, ← List.append_assoc] at h
    exact cutAt?_eq_some_iff.mpr ⟨List.append_cancel_right h.1, h.2⟩

/-! ## Escapes -/

/-- A code point of a fixed number of digits or between braces. -/
theorem settled_readCodePoint (verbose : Bool) (width : Nat) :
    Settled (readCodePoint verbose width) := by
  have hbraced := (settled_readBraced verbose).filterMap (codePoint? false)
  have hfixed := ((settled_readFixed verbose width).filterMap
    (codePoint? (width == 2))).behindSkip verbose
  refine settled_sign verbose '\x7b' hbraced hfixed ?_ ?_
  · intro cs rest hskip
    unfold readCodePoint
    rw [hskip]
    rfl
  · intro cs hno
    unfold readCodePoint
    split
    · next rest hskip => exact absurd hskip (hno rest)
    · rfl

/-- A property, named by one character or between braces. -/
theorem settled_readProperty (verbose negated : Bool) :
    Settled (readProperty verbose negated) := by
  have hbraced := (settled_readBraced verbose).map fun text =>
    Escape.ofProperty negated (propertyOfText text)
  refine settled_skip verbose
    (fun c rest =>
      if c = '\\' then none
      else if c = '\x7b' then
        (readBraced verbose rest).map fun found =>
          (Escape.ofProperty negated (propertyOfText found.1), found.2)
      else some (.property (.letter c) negated, rest)) (fun cs => ?_) fun c => ?_
  · unfold readProperty
    split
    · next h => rw [h]
    · next h => rw [h]; rfl
    · next h => rw [h]; rfl
    · next c rest hslash hbrace h =>
      rw [h]
      exact (if_neg hslash).trans (if_neg hbrace) |>.symm
  · split
    · exact settled_none
    · split
      · exact hbraced
      · exact settled_some _

/-- The name of a kind of word boundary. -/
theorem settled_readBoundaryName (verbose : Bool) : Settled (readBoundaryName verbose) where
  suffix := readBoundaryName_suffix
  of_append := by
    intro cs escape rest more h
    unfold readBoundaryName at h ⊢
    split at h
    · next name after hrun =>
      obtain ⟨check, hcheck, heq⟩ := Option.map_eq_some_iff.mp h
      obtain ⟨rfl, rfl⟩ := Prod.mk.inj heq
      have hwhole : readRun verbose isBoundaryNameChar (cs ++ ')' :: more) =
          (name, ('\x7d' :: rest) ++ ')' :: more) := hrun
      have halone : readRun verbose isBoundaryNameChar cs = (name, '\x7d' :: rest) :=
        Option.some.inj
          ((settled_readRun verbose isBoundaryNameChar).of_append (congrArg some hwhole))
      rw [halone]
      exact congrArg (Option.map _) hcheck
    · cases h

/-- A word boundary, of a kind with a name or not. -/
theorem settled_readBoundary (verbose : Bool) : Settled (readBoundary verbose) where
  suffix := readBoundary_suffix
  of_append := by
    intro cs escape rest more h
    rcases cs with _ | ⟨c, cs⟩
    · exact (settled_some _).of_append h
    by_cases hbrace : c = '\x7b'
    swap
    · have hplain (ds : List Char) :
          readBoundary verbose (c :: ds) = some (.word .boundary, c :: ds) := by
        simp [readBoundary, hbrace]
      rw [List.cons_append, hplain] at h
      rw [hplain]
      exact (settled_some _).of_append h
    subst hbrace
    simp only [List.cons_append, readBoundary] at h ⊢
    split at h
    · next hname =>
      have halone := (settled_readBoundaryName verbose).of_append h
      rw [if_pos ?_]
      · exact halone
      -- A name that is read from the text alone starts in it.
      cases hskip : skip verbose cs with
      | nil =>
        unfold readBoundaryName at halone
        rw [readRun_eq, hskip] at halone
        cases halone
      | cons d after =>
        rw [skip_append _ hskip] at hname
        exact hname
    · next hname =>
      rw [if_neg ?_]
      · exact (settled_some _).of_append h
      intro halone
      cases hskip : skip verbose cs with
      | nil => simp [hskip] at halone
      | cons d after =>
        rw [skip_append _ hskip] at hname
        rw [hskip] at halone
        exact hname halone

/-- An escape, of which something is there. -/
theorem settled_readEscape (verbose : Bool) (c : Char) :
    Settled fun cs => readEscape verbose (c :: cs) := by
  by_cases hx : c = 'x'
  · subst hx
    exact settled_readCodePoint verbose 2
  by_cases hu : c = 'u'
  · subst hu
    exact settled_readCodePoint verbose 4
  by_cases hU : c = 'U'
  · subst hU
    exact settled_readCodePoint verbose 8
  by_cases hp : c = 'p'
  · subst hp
    exact settled_readProperty verbose false
  by_cases hP : c = 'P'
  · subst hP
    exact settled_readProperty verbose true
  by_cases hb : c = 'b'
  · subst hb
    exact settled_readBoundary verbose
  have halone : (fun cs => readEscape verbose (c :: cs)) =
      fun cs => (Escape.ofChar? c).map (·, cs) := by
    funext cs
    simp [readEscape]
  rw [halone]
  cases Escape.ofChar? c with
  | none => exact settled_none
  | some escape => exact settled_some escape

/-- An escape. -/
theorem settled_readEscapes (verbose : Bool) : Settled (readEscape verbose) where
  suffix := by
    intro cs escape rest h
    cases cs with
    | nil => cases h
    | cons c cs => exact (readEscape_suffix h).trans (List.suffix_cons c cs)
  of_append := by
    intro cs escape rest more h
    cases cs with
    | nil =>
      -- What starts with the parenthesis has used it up.
      have hlength := (readEscape_suffix h).length_le
      rw [List.length_append, List.length_cons] at hlength
      omega
    | cons c cs => exact (settled_readEscape verbose c).of_append h

end QueryGate.Regex
