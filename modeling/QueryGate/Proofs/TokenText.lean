import QueryGate.Proofs.BracketText
import QueryGate.Regex.Token

/-!
# Tokens in front of a closing parenthesis

A token that leaves the closing parenthesis behind a text untouched is read as from the text alone.
So are the tokens that a text begins with. Their number is not fixed, since the text may go on with
anything.
-/

namespace QueryGate.Regex

open QueryGate.Text

/-! ## Repetitions -/

/-- A number as a count. -/
theorem readCount_eq (verbose : Bool) (cs : List Char) :
    readCount verbose cs =
      (digits? (readRun verbose Char.isDigit (trimStart (skip verbose cs))).1).bind fun n =>
        if n ≤ maxCount then
          some (n, trimStart (readRun verbose Char.isDigit (trimStart (skip verbose cs))).2)
        else none :=
  rfl

/-- Blanks in front of the closing parenthesis are blanks of the text alone. -/
theorem trimStart_of_append {cs rest more : List Char}
    (h : trimStart (cs ++ ')' :: more) = rest ++ ')' :: more) : trimStart cs = rest := by
  rw [trimStart_append_close] at h
  exact List.append_cancel_right h

/-- Counts. -/
theorem settled_readCount (verbose : Bool) : Settled (readCount verbose) := by
  have hdigits := (settled_readRun verbose Char.isDigit).behind trimStart_suffix trimStart_of_append
  have hnumber := (hdigits.behindSkip verbose).filterMap fun digits =>
    (digits? digits).filter (· ≤ maxCount)
  have htrimmed : Settled fun cs : List Char => some ((), trimStart cs) :=
    (settled_some ()).behind trimStart_suffix trimStart_of_append
  have hread := hnumber.bind fun n => htrimmed.map fun _ => n
  have heq : readCount verbose = fun cs =>
      ((some (readRun verbose Char.isDigit (trimStart (skip verbose cs)))).bind fun found =>
        ((digits? found.1).filter (· ≤ maxCount)).map (·, found.2)).bind fun found =>
          (some ((), trimStart found.2)).map fun trimmed => (found.1, trimmed.2) := by
    funext cs
    rw [readCount_eq, Option.bind_some]
    cases digits? (readRun verbose Char.isDigit (trimStart (skip verbose cs))).1 with
    | none => rfl
    | some n => by_cases hn : n ≤ maxCount <;> simp [Option.filter, hn]
  rw [heq]
  exact hread

/-- What ends with a closing brace. -/
theorem settled_closeBrace {α : Type} (a : Option α) : Settled fun cs : List Char =>
    match cs with
    | '\x7d' :: rest => a.map (·, rest)
    | _ => none := by
  refine settled_sign false '\x7d'
    ((settled_some ()).filterMap fun _ => a) settled_none ?_ ?_
  · rintro cs rest rfl
    rfl
  · intro cs hno
    split
    · next rest => exact absurd rfl (hno rest)
    · rfl

/-- The greatest count. -/
theorem settled_readMost (verbose : Bool) (least : Nat) : Settled (readMost verbose least) := by
  have hclose (most : Nat) :=
    settled_closeBrace (if least ≤ most then some (least, some most) else none)
  have hcount := ((settled_readCount verbose).bind hclose).behindSkip verbose
  refine settled_sign verbose '\x7d' (settled_some (least, none)) hcount ?_ ?_
  · intro cs rest hskip
    unfold readMost
    rw [hskip]
    rfl
  · intro cs hno
    unfold readMost
    split
    · next rest hskip => exact absurd hskip (hno rest)
    · rcases readCount verbose (skip verbose cs) with _ | ⟨most, rest⟩
      · rfl
      · rw [Option.bind_some]
        split
        · next after heq =>
          obtain ⟨rfl, rfl⟩ := Prod.mk.inj (Option.some.inj heq)
          split <;> rfl
        · next hno' =>
          split
          · next after heq => exact absurd (by rw [← heq]) (hno' most after)
          · rfl

/-- What follows the least count. -/
theorem settled_readBehindLeast (verbose : Bool) (least : Nat) :
    Settled (readBehindLeast verbose least) := by
  have hcomma : Settled fun cs : List Char =>
      if cs.head? = some ',' then readMost verbose least cs.tail else none := by
    refine settled_sign false ',' (settled_readMost verbose least) settled_none ?_ ?_
    · rintro cs rest rfl
      rfl
    · exact fun cs hno => if_neg fun hhead => hno cs.tail (List.eq_cons_of_mem_head? hhead)
  refine settled_sign false '\x7d' (settled_some (least, some least)) hcomma ?_ ?_
  · rintro cs rest rfl
    rfl
  · intro cs hno
    unfold readBehindLeast
    split
    · next rest => exact absurd rfl (hno rest)
    · rfl
    · next hcomma' =>
      refine (if_neg fun hhead => ?_).symm
      exact hcomma' _ (List.eq_cons_of_mem_head? hhead)

/-- A repetition counted between braces. -/
theorem settled_readCounts (verbose : Bool) : Settled (readCounts verbose) :=
  (settled_readCount verbose).bind (settled_readBehindLeast verbose)

/-- The sign that makes a repetition prefer fewer rounds. -/
theorem settled_repetition (verbose : Bool) (least : Nat) (most : Option Nat) :
    Settled fun cs => some (repetition verbose least most cs) := by
  refine settled_sign verbose '?'
    (settled_some (Token.repeated least most true)) (settled_some (Token.repeated least most false))
    ?_ ?_
  · intro cs rest hskip
    unfold repetition splitLazy
    rw [hskip]
    rfl
  · intro cs hno
    unfold repetition splitLazy
    split
    · next heq =>
      split at heq
      · next rest hskip => exact absurd hskip (hno rest)
      · cases heq
        rfl

/-- A repetition with counts between braces. -/
theorem settled_countedRepetition (verbose : Bool) : Settled fun cs =>
    (readCounts verbose cs).map fun ((least, most), rest) =>
      repetition verbose least most rest := by
  have hbind := (settled_readCounts verbose).bind fun counts =>
    settled_repetition verbose counts.1 counts.2
  simp only [Option.map_eq_bind]
  exact hbind

/-! ## Groups -/

/-- The flags of a text that goes on with a character. -/
theorem readFlags_cons (on : Bool) (seen : List FlagSetting) (c : Char) (cs : List Char) :
    readFlags on seen (c :: cs) =
      if c == ':' || c == ')' then some (seen, c, cs)
      else if c == '-' then
        if !on || cs.head?.all (fun d => d == ':' || d == ')') then none
        else readFlags false seen cs
      else (Flag.ofChar? c).bind fun flag =>
        if seen.any (·.1 == flag) then none else readFlags on (seen ++ [(flag, on)]) cs := by
  rw [readFlags.eq_def]
  dsimp only
  split
  · rfl
  split
  · cases cs with
    | nil => simp
    | cons d cs => simp [Bool.or_assoc]
  · cases Flag.ofChar? c <;> rfl

/-- Flags with an ending before a closing parenthesis are read from the text alone. -/
theorem readFlags_of_append {on : Bool} {seen flags : List FlagSetting}
    {cs rest more : List Char} {ending : Char}
    (h : readFlags on seen (cs ++ ')' :: more) = some (flags, ending, rest ++ ')' :: more)) :
    readFlags on seen cs = some (flags, ending, rest) := by
  induction cs generalizing on seen with
  | nil =>
    -- The parenthesis is the ending, so it cannot be left.
    have hlength := congrArg (Option.map fun found => found.2.2.length) h
    simp [readFlags] at hlength
    omega
  | cons c cs ih =>
    have hhead : (cs ++ ')' :: more).head?.all (fun d => d == ':' || d == ')') =
        cs.head?.all (fun d => d == ':' || d == ')') := by
      cases cs <;> rfl
    rw [List.cons_append, readFlags_cons, hhead] at h
    rw [readFlags_cons]
    split at h
    · next hending =>
      obtain ⟨rfl, rfl, hrest⟩ := by simpa only [Option.some_inj, Prod.mk.injEq] using h
      rw [if_pos hending, List.append_cancel_right hrest]
    next hending =>
    rw [if_neg hending]
    split at h
    · next hminus =>
      rw [if_pos hminus]
      split at h
      · cases h
      · next hgoes =>
        rw [if_neg hgoes]
        exact ih h
    next hminus =>
    rw [if_neg hminus]
    obtain ⟨flag, hflag, h⟩ := Option.bind_eq_some_iff.mp h
    rw [hflag, Option.bind_some]
    split at h
    · cases h
    · next hnew =>
      rw [if_neg hnew]
      exact ih h

/-- The name of a group. -/
theorem settled_readGroupName : Settled readGroupName :=
  (settled_cutAt? '>').filterMap namedGroup?

/-- The start of a group that flags follow. -/
theorem settled_readFlagGroup : Settled readFlagGroup := by
  have hflags : Settled fun cs =>
      (readFlags true [] cs).map fun found => ((found.1, found.2.1), found.2.2) := by
    constructor
    · intro cs found rest h
      obtain ⟨⟨flags, ending, rest⟩, hread, heq⟩ := Option.map_eq_some_iff.mp h
      cases heq
      exact readFlags_suffix hread
    · rintro cs ⟨flags, ending⟩ rest more h
      obtain ⟨⟨flags, ending, rest⟩, hread, heq⟩ := Option.map_eq_some_iff.mp h
      cases heq
      exact Option.map_eq_some_iff.mpr ⟨_, readFlags_of_append hread, rfl⟩
  have hgroup := hflags.filterMap fun found => flagGroup? found.1 found.2
  have heq : readFlagGroup = fun cs =>
      ((readFlags true [] cs).map fun found => ((found.1, found.2.1), found.2.2)).bind
        fun found => (flagGroup? found.1.1 found.1.2).map (·, found.2) := by
    funext cs
    unfold readFlagGroup
    cases readFlags true [] cs <;> rfl
  rw [heq]
  exact hgroup

/-- The name of a group between angle brackets. -/
theorem settled_readAngledName : Settled readAngledName := by
  refine settled_sign false '<' settled_readGroupName settled_none ?_ ?_
  · rintro cs rest rfl
    rfl
  · intro cs hno
    unfold readAngledName
    split
    · next rest => exact absurd rfl (hno rest)
    · rfl

/-- What follows the sign that makes a group special. -/
theorem settled_readSpecialGroup : Settled readSpecialGroup := by
  have hangle : Settled fun cs : List Char =>
      if cs.head? = some '<' then readAngledName cs else readFlagGroup cs := by
    refine settled_sign false '<' settled_readGroupName settled_readFlagGroup ?_ ?_
    · rintro cs rest rfl
      rfl
    · exact fun cs hno => if_neg fun hhead => hno cs.tail (List.eq_cons_of_mem_head? hhead)
  refine settled_sign false 'P' settled_readAngledName hangle ?_ ?_
  · rintro cs rest rfl
    rfl
  · intro cs hno
    unfold readSpecialGroup
    split
    · next rest => exact absurd rfl (hno rest)
    · rfl
    · next hangle' =>
      refine (if_neg fun hhead => ?_).symm
      exact hangle' _ (List.eq_cons_of_mem_head? hhead)

/-- The start of a group. -/
theorem settled_readGroup (verbose : Bool) : Settled (readGroup verbose) := by
  refine settled_sign verbose '?' settled_readSpecialGroup
    (settled_some (Token.openGroup true none [])) ?_ ?_
  · intro cs rest hskip
    unfold readGroup
    rw [hskip]
    rfl
  · intro cs hno
    unfold readGroup
    split
    · next rest hskip => exact absurd hskip (hno rest)
    · rfl

/-! ## Tokens -/

/-- A token that starts with a given character. -/
theorem settled_readToken (verbose : Bool) (c : Char) : Settled (readToken verbose c) where
  suffix := readToken_suffix
  of_append := by
    intro cs token rest more h
    unfold readToken at h ⊢
    split at h
    · exact (settled_readGroup verbose).of_append h
    · exact (settled_some _).of_append h
    · exact (settled_some _).of_append h
    · exact (settled_repetition false 0 none).of_append h
    · exact (settled_repetition false 1 none).of_append h
    · exact (settled_repetition false 0 (some 1)).of_append h
    · exact (settled_countedRepetition verbose).of_append h
    · exact ((settled_readBracket verbose).map Token.bracket).of_append h
    · exact ((settled_readEscapes verbose).map Token.atom).of_append h
    · exact (settled_some _).of_append h
    · exact (settled_some _).of_append h
    · exact (settled_some _).of_append h
    · exact (settled_some _).of_append h

/-- The next token. -/
theorem settled_nextToken? (verbose : Bool) : Settled (nextToken? verbose) :=
  settled_skip verbose _ (fun _ => rfl) (settled_readToken verbose)

/-- The start of a group is not the end of one. -/
theorem readGroup_ne_closeGroup {verbose : Bool} {cs rest : List Char} {token : Token}
    (h : readGroup verbose cs = some (token, rest)) : token ≠ .closeGroup := by
  have hname {cs : List Char} (h : readGroupName cs = some (token, rest)) :
      token ≠ .closeGroup := by
    obtain ⟨⟨name, after⟩, -, h⟩ := Option.bind_eq_some_iff.mp h
    obtain ⟨token', hnamed, heq⟩ := Option.map_eq_some_iff.mp h
    cases heq
    unfold namedGroup? at hnamed
    split at hnamed
    · cases hnamed
    · split at hnamed <;> cases hnamed
      exact Token.noConfusion
  have hangled {cs : List Char} (h : readAngledName cs = some (token, rest)) :
      token ≠ .closeGroup := by
    unfold readAngledName at h
    split at h
    · exact hname h
    · cases h
  have hflags {cs : List Char} (h : readFlagGroup cs = some (token, rest)) :
      token ≠ .closeGroup := by
    obtain ⟨⟨flags, ending, after⟩, -, h⟩ := Option.bind_eq_some_iff.mp h
    obtain ⟨token', hgroup, heq⟩ := Option.map_eq_some_iff.mp h
    cases heq
    unfold flagGroup? at hgroup
    split at hgroup
    · cases hgroup
      exact Token.noConfusion
    · split at hgroup <;> cases hgroup
      exact Token.noConfusion
  unfold readGroup at h
  split at h
  · unfold readSpecialGroup at h
    split at h
    · exact hangled h
    · exact hangled h
    · exact hflags h
  · cases h
    exact Token.noConfusion

/-- Only a closing parenthesis is read as the end of a group. -/
theorem readToken_closeGroup {verbose : Bool} {c : Char} {cs rest : List Char}
    (h : readToken verbose c cs = some (.closeGroup, rest)) : c = ')' ∧ rest = cs := by
  have hrepetition {verbose : Bool} {least : Nat} {most : Option Nat} {cs : List Char}
      (h : repetition verbose least most cs = (.closeGroup, rest)) : False := by
    cases h
  unfold readToken at h
  split at h
  · exact absurd rfl (readGroup_ne_closeGroup h)
  · cases h
    exact ⟨rfl, rfl⟩
  · cases h
  · exact (hrepetition (Option.some_inj.mp h)).elim
  · exact (hrepetition (Option.some_inj.mp h)).elim
  · exact (hrepetition (Option.some_inj.mp h)).elim
  · obtain ⟨_, -, h⟩ := Option.map_eq_some_iff.mp h
    exact (hrepetition h).elim
  · obtain ⟨_, -, h⟩ := Option.map_eq_some_iff.mp h
    cases h
  · obtain ⟨_, -, h⟩ := Option.map_eq_some_iff.mp h
    cases h
  all_goals cases h

/-- The next token is the end of a group where the text goes on with a closing parenthesis. -/
theorem nextToken?_closeGroup_iff {verbose : Bool} {cs rest : List Char} :
    nextToken? verbose cs = some (.closeGroup, rest) ↔ skip verbose cs = ')' :: rest := by
  constructor
  · intro h
    unfold nextToken? at h
    split at h
    · cases h
    · next c after hskip =>
      obtain ⟨rfl, rfl⟩ := readToken_closeGroup h
      exact hskip
  · intro h
    unfold nextToken?
    rw [h]
    rfl

/-- Behind the last token nothing is left but what is passed over. -/
theorem tokensFrom?_eq_some_nil_iff {spacing : Spacing} {cs : List Char} :
    tokensFrom? spacing cs = some [] ↔ skip spacing.verbose cs = [] := by
  rw [tokensFrom?.eq_def]
  split
  · next hempty => exact iff_of_true rfl (List.isEmpty_iff.mp hempty)
  · next hempty =>
    refine iff_of_false (fun h => ?_) fun h => hempty (List.isEmpty_iff.mpr h)
    split at h
    · cases h
    · obtain ⟨_, -, heq⟩ := Option.map_eq_some_iff.mp h
      cases heq

/-- A text with tokens starts with the text of the first of them. -/
theorem tokensFrom?_eq_some_cons_iff {spacing : Spacing} {cs : List Char} {token : Token}
    {tokens : List Token} :
    tokensFrom? spacing cs = some (token :: tokens) ↔
      ∃ rest, nextToken? spacing.verbose cs = some (token, rest) ∧
        tokensFrom? (spacing.after token) rest = some tokens := by
  rw [tokensFrom?.eq_def]
  split
  · next hempty =>
    refine iff_of_false nofun ?_
    rintro ⟨rest, htoken, -⟩
    unfold nextToken? at htoken
    rw [List.isEmpty_iff.mp hempty] at htoken
    cases htoken
  · split
    · next hnone => simp [hnone]
    · next first after hfirst =>
      rw [hfirst, Option.map_eq_some_iff]
      constructor
      · rintro ⟨tokens, htokens, heq⟩
        cases heq
        exact ⟨after, rfl, htokens⟩
      · rintro ⟨rest, heq, htokens⟩
        cases heq
        exact ⟨tokens, htokens, rfl⟩

/-! ## What a text begins with -/

/-- The text begins with the tokens, and behind them the rest is left. -/
inductive Begins : Spacing → List Char → List Token → List Char → Prop where
  /-- No tokens. -/
  | nil {spacing : Spacing} {text : List Char} : Begins spacing text [] text
  /-- A token and those behind it. -/
  | cons {spacing : Spacing} {text after rest : List Char} {token : Token} {tokens : List Token}
      (first : nextToken? spacing.verbose text = some (token, after))
      (others : Begins (spacing.after token) after tokens rest) :
      Begins spacing text (token :: tokens) rest

/-- What becomes of blanks behind tokens. -/
def Spacing.afterAll (spacing : Spacing) (tokens : List Token) : Spacing :=
  tokens.foldl Spacing.after spacing

/-- Blanks are passed over alike in all groups. -/
def Spacing.Alike (spacing other : Spacing) : Prop :=
  ∀ i, spacing.getD i false = other.getD i false

namespace Spacing.Alike

variable {spacing other : Spacing}

/-- Blanks are passed over alike in the innermost group. -/
theorem verbose (h : spacing.Alike other) : spacing.verbose = other.verbose := by
  have hfirst := h 0
  cases spacing <;> cases other <;> exact hfirst

/-- Blanks are passed over alike in the groups around the innermost. -/
theorem tail (h : spacing.Alike other) : Alike spacing.tail other.tail := by
  intro i
  have hnext := h (i + 1)
  cases spacing <;> cases other <;> exact hnext

/-- Blanks are passed over alike where one more group is opened alike. -/
theorem cons (h : spacing.Alike other) (inner : Bool) :
    Alike (inner :: spacing) (inner :: other) := by
  intro i
  cases i with
  | zero => rfl
  | succ i => exact h i

/-- Blanks are passed over alike behind a token. -/
theorem after (h : spacing.Alike other) (token : Token) :
    (spacing.after token).Alike (other.after token) := by
  cases token with
  | openGroup remembered name flags =>
    unfold Spacing.after
    rw [h.verbose]
    exact h.cons _
  | setFlags flags =>
    unfold Spacing.after
    rw [h.verbose]
    exact h.tail.cons _
  | closeGroup => exact h.tail
  | _ => exact h

/-- Blanks are passed over alike behind tokens. -/
theorem afterAll (h : spacing.Alike other) (tokens : List Token) :
    (spacing.afterAll tokens).Alike (other.afterAll tokens) := by
  induction tokens generalizing spacing other with
  | nil => exact h
  | cons token tokens ih => exact ih (h.after token)

end Spacing.Alike

namespace Begins

variable {spacing other : Spacing} {text rest more : List Char} {tokens : List Token}

/-- What is left behind the tokens is an end of the text. -/
theorem suffix (h : Begins spacing text tokens rest) : rest <:+ text := by
  induction h with
  | nil => exact List.suffix_refl _
  | cons first others ih => exact ih.trans ((settled_nextToken? _).suffix first)

/-- Where blanks are passed over alike, a text begins with the same tokens. -/
theorem of_alike (h : Begins spacing text tokens rest) (halike : spacing.Alike other) :
    Begins other text tokens rest := by
  induction h generalizing other with
  | nil => exact .nil
  | cons first others ih => exact .cons (halike.verbose ▸ first) (ih (halike.after _))

/-- A token behind the others. -/
theorem snoc {token : Token} {after : List Char} (h : Begins spacing text tokens rest)
    (hnext : nextToken? (spacing.afterAll tokens).verbose rest = some (token, after)) :
    Begins spacing text (tokens ++ [token]) after := by
  induction h with
  | nil => exact .cons hnext .nil
  | cons first others ih => exact .cons first (ih hnext)

/-- Tokens in front of a closing parenthesis that none of them touches are those of the text
alone. -/
theorem of_append_close (h : Begins spacing (text ++ ')' :: more) tokens (rest ++ ')' :: more)) :
    Begins spacing text tokens rest := by
  induction tokens generalizing spacing text with
  | nil =>
    generalize hwhole : text ++ ')' :: more = whole at h
    generalize hleft : rest ++ ')' :: more = left at h
    cases h
    rw [List.append_cancel_right (hwhole.trans hleft.symm)]
    exact .nil
  | cons token tokens ih =>
    obtain ⟨after, hfirst, hothers⟩ :
        ∃ after, nextToken? spacing.verbose (text ++ ')' :: more) = some (token, after) ∧
          Begins (spacing.after token) after tokens (rest ++ ')' :: more) := by
      cases h with
      | cons first others => exact ⟨_, first, others⟩
    obtain ⟨used, rfl⟩ := hothers.suffix
    rw [← List.append_assoc] at hfirst hothers
    exact .cons ((settled_nextToken? _).of_append hfirst) (ih hothers)

/-- A text that has tokens begins with the first of them. -/
theorem exists_of_tokensFrom? {before all : List Token} (h : Begins spacing text before rest)
    (hall : tokensFrom? spacing text = some all) : ∃ after, all = before ++ after := by
  induction h generalizing all with
  | nil => exact ⟨all, rfl⟩
  | @cons spacing text after rest token tokens first others ih =>
    cases all with
    | nil =>
      have hskip := tokensFrom?_eq_some_nil_iff.mp hall
      unfold nextToken? at first
      rw [hskip] at first
      cases first
    | cons token' all =>
      obtain ⟨after', hfirst, hothers⟩ := tokensFrom?_eq_some_cons_iff.mp hall
      cases first.symm.trans hfirst
      obtain ⟨behind, rfl⟩ := ih hothers
      exact ⟨behind, rfl⟩

end Begins

/-- The tokens of a text are those it begins with and those of the rest. -/
theorem tokensFrom?_append_iff {spacing : Spacing} {text : List Char} {before after : List Token} :
    tokensFrom? spacing text = some (before ++ after) ↔
      ∃ rest, Begins spacing text before rest ∧
        tokensFrom? (spacing.afterAll before) rest = some after := by
  induction before generalizing spacing text with
  | nil =>
    constructor
    · exact fun h => ⟨text, .nil, h⟩
    · rintro ⟨rest, hbegins, h⟩
      cases hbegins
      exact h
  | cons token before ih =>
    rw [List.cons_append, tokensFrom?_eq_some_cons_iff]
    constructor
    · rintro ⟨middle, hfirst, hothers⟩
      obtain ⟨rest, hbegins, hrest⟩ := ih.mp hothers
      exact ⟨rest, .cons hfirst hbegins, hrest⟩
    · rintro ⟨rest, hbegins, hrest⟩
      cases hbegins with
      | cons first others => exact ⟨_, first, ih.mpr ⟨rest, others, hrest⟩⟩

end QueryGate.Regex
