import QueryGate.Plugin.Expression
import QueryGate.Proofs.Matching
import QueryGate.Proofs.TokenText

/-!
# Expressions between anchors

The regex plugin puts the text of an expression between `^(?:` and `)$` and reads the whole. The
tokens of the expression are then read with one more group open, which changes nothing as long as
none of them closes that group. If none does, the whole is the expression between the start and the
end of the text, so that it is found exactly in the values that the expression matches as a whole.
A parenthesis that the expression does not open closes the group of the plugin instead, and the
whole may then be read although the expression alone cannot.
-/

namespace QueryGate.Regex

open QueryGate.Text

/-! ## Well-formed texts -/

/-- The text is that of an expression, of which the piece is made. The limits on an expression are
not part of this. -/
def Writes (properties : Properties) (text : List Char) (piece : Piece) : Prop :=
  ∃ tokens, tokens? text = some tokens ∧ pieceOfTokens? properties tokens = some piece

/-- Whether the token is the start of a group. -/
def Token.opens : Token → Bool
  | .openGroup _ _ _ => true
  | _ => false

/-- How many groups the tokens open. -/
def opened (tokens : List Token) : Nat :=
  tokens.countP Token.opens

/-- How many groups the tokens close. -/
def closed (tokens : List Token) : Nat :=
  tokens.count .closeGroup

/-- The text begins with tokens that close more groups than they open. -/
def ClosesEarly (text : List Char) : Prop :=
  ∃ tokens rest, Begins [] text tokens rest ∧ opened tokens < closed tokens

variable {properties : Properties}

/-- Tokens make up a piece when reading them leaves no group open. -/
theorem pieceOfTokens?_eq_some_iff {tokens : List Token} {piece : Piece} :
    pieceOfTokens? properties tokens = some piece ↔ ∃ reading, reading.outer = [] ∧
      tokens.foldlM (Reading.take properties) Reading.start = some reading ∧
        reading.frame.finish = piece := by
  unfold pieceOfTokens?
  rw [Option.bind_eq_bind, Option.bind_eq_some_iff]
  constructor
  · rintro ⟨reading, hread, h⟩
    split at h
    · next hempty => exact ⟨reading, List.isEmpty_iff.mp hempty, hread, Option.some_inj.mp h⟩
    · cases h
  · rintro ⟨reading, hempty, hread, rfl⟩
    exact ⟨reading, hread, by rw [hempty]; rfl⟩

/-! ## Reading with more groups open -/

/-- What a group is opened with: its number and the flags to return to at its end. -/
def Frame.entry (frame : Frame) : Option Nat × Flags :=
  (frame.number, frame.outerFlags)

namespace Reading

/-- The same reading with more groups open around it. -/
def within (reading : Reading) (around : List Frame) : Reading :=
  { reading with outer := reading.outer ++ around }

/-- What the outermost of the open groups was opened with. -/
def entry (reading : Reading) : Option Nat × Flags :=
  (reading.outer.getLast?.getD reading.frame).entry

variable {reading next : Reading} {around : List Frame} {token : Token} {tokens : List Token}

/-- A token is taken in alike whatever is open around, unless it closes what is open around. -/
theorem take_within (h : token = .closeGroup → reading.outer ≠ []) :
    (reading.within around).take properties token =
      (reading.take properties token).map (·.within around) := by
  cases token with
  | atom escape =>
    simp only [take, within]
    cases reading.flags.atom? properties escape <;> rfl
  | dot =>
    simp only [take, within]
    cases reading.flags.dot? <;> rfl
  | bracket nested =>
    simp only [take, within]
    cases reading.flags.setPiece? properties nested.set nested.depth <;> rfl
  | repeated least most isLazy =>
    simp only [take, within]
    cases reading.frame.repeatLast least most (isLazy == reading.flags.swapGreed) <;> rfl
  | openGroup remembered name settings =>
    simp only [take, openGroup, within]
    by_cases hknown : name.any reading.names.contains = true <;> simp [hknown]
  | closeGroup =>
    obtain ⟨below, outer, houter⟩ := List.exists_cons_of_ne_nil (h rfl)
    simp only [take, closeGroup, within, houter]
    rfl
  | _ => rfl

/-- Tokens that can be taken in without open groups around close none of them. -/
theorem foldlM_within (h : tokens.foldlM (take properties) reading = some next) :
    tokens.foldlM (take properties) (reading.within around) = some (next.within around) := by
  induction tokens generalizing reading with
  | nil =>
    cases h
    rfl
  | cons token tokens ih =>
    rw [List.foldlM_cons] at h ⊢
    obtain ⟨middle, htoken, hrest⟩ := Option.bind_eq_some_iff.mp h
    have hopen : token = .closeGroup → reading.outer ≠ [] := by
      rintro rfl hnone
      simp only [take, closeGroup, hnone] at htoken
      cases htoken
    rw [take_within hopen, htoken]
    exact ih hrest

/-- Tokens that are taken in with open groups around either close none of them or come to one that
closes the innermost. -/
theorem of_foldlM_within (h : tokens.foldlM (take properties) (reading.within around) = some next) :
    (∃ last, tokens.foldlM (take properties) reading = some last ∧ next = last.within around) ∨
      ∃ before after middle, tokens = before ++ .closeGroup :: after ∧
        before.foldlM (take properties) reading = some middle ∧ middle.outer = [] := by
  induction tokens generalizing reading with
  | nil =>
    cases h
    exact .inl ⟨reading, rfl, rfl⟩
  | cons token tokens ih =>
    by_cases hcloses : token = .closeGroup ∧ reading.outer = []
    · obtain ⟨rfl, hnone⟩ := hcloses
      exact .inr ⟨[], tokens, reading, rfl, rfl, hnone⟩
    rw [List.foldlM_cons, take_within fun htoken hnone => hcloses ⟨htoken, hnone⟩] at h
    obtain ⟨_, htaken, hrest⟩ := Option.bind_eq_some_iff.mp h
    obtain ⟨middle, htoken, rfl⟩ := Option.map_eq_some_iff.mp htaken
    rcases ih hrest with ⟨last, hlast, rfl⟩ | ⟨before, after, last, rfl, hlast, hnone⟩
    · refine .inl ⟨last, ?_, rfl⟩
      rw [List.foldlM_cons, htoken]
      exact hlast
    · refine .inr ⟨token :: before, after, last, rfl, ?_, hnone⟩
      rw [List.foldlM_cons, htoken]
      exact hlast

/-! ### How many groups are open -/

/-- A token opens a group, closes one or leaves as many open as there were. -/
theorem length_outer_take (h : reading.take properties token = some next) :
    next.outer.length + closed [token] = reading.outer.length + opened [token] := by
  cases token with
  | openGroup remembered name settings =>
    have hopen : reading.openGroup remembered name settings = some next := h
    unfold openGroup at hopen
    split at hopen
    · cases hopen
    · cases hopen
      rfl
  | closeGroup =>
    have hclose : reading.closeGroup = some next := h
    unfold closeGroup at hclose
    split at hclose
    · cases hclose
    · next below outer houter =>
      cases hclose
      rw [houter]
      rfl
  | repeated least most isLazy =>
    obtain ⟨frame, -, hnext⟩ := Option.bind_eq_some_iff.mp h
    cases hnext
    rfl
  | atom escape =>
    obtain ⟨piece, -, rfl⟩ := Option.map_eq_some_iff.mp h
    rfl
  | dot =>
    obtain ⟨set, -, rfl⟩ := Option.map_eq_some_iff.mp h
    rfl
  | bracket nested =>
    obtain ⟨piece, -, rfl⟩ := Option.map_eq_some_iff.mp h
    rfl
  | _ =>
    cases h
    rfl

/-- As many groups are open behind tokens as they opened and did not close. -/
theorem length_outer_foldlM_take (h : tokens.foldlM (take properties) reading = some next) :
    next.outer.length + closed tokens = reading.outer.length + opened tokens := by
  induction tokens generalizing reading with
  | nil =>
    cases h
    rfl
  | cons token tokens ih =>
    rw [List.foldlM_cons] at h
    obtain ⟨middle, htoken, hrest⟩ := Option.bind_eq_some_iff.mp h
    have hfirst := length_outer_take htoken
    have hothers := ih hrest
    have hopened : opened ([token] ++ tokens) = opened [token] + opened tokens := List.countP_append
    have hclosed : closed ([token] ++ tokens) = closed [token] + closed tokens := List.count_append
    rw [← List.singleton_append]
    omega

/-! ### The outermost group -/

/-- The outermost group was opened alike where the groups around are the same and the innermost one
was opened alike. -/
theorem entry_of_eq (hframe : next.frame.entry = reading.frame.entry)
    (houter : next.outer = reading.outer) : next.entry = reading.entry := by
  unfold entry
  rw [houter]
  cases reading.outer.getLast? with
  | none => exact hframe
  | some frame => rfl

/-- Behind the start of a group the outermost group is the one it was. -/
theorem entry_openGroup {remembered : Bool} {name : Option (List Char)}
    {settings : List FlagSetting} (h : reading.openGroup remembered name settings = some next) :
    next.entry = reading.entry := by
  unfold openGroup at h
  split at h
  · cases h
  · cases h
    simp [entry, List.getLast?_cons]

/-- Behind the end of a group the outermost group is the one it was. -/
theorem entry_closeGroup (h : reading.closeGroup = some next) : next.entry = reading.entry := by
  unfold closeGroup at h
  split at h
  · cases h
  · next below outer houter =>
    cases h
    simp only [entry, houter, List.getLast?_cons, Option.getD_some]
    cases outer.getLast? <;> rfl

/-- No token changes what the outermost group was opened with. -/
theorem entry_take (h : reading.take properties token = some next) :
    next.entry = reading.entry := by
  cases token with
  | atom escape =>
    obtain ⟨piece, -, rfl⟩ := Option.map_eq_some_iff.mp h
    exact entry_of_eq rfl rfl
  | dot =>
    obtain ⟨set, -, rfl⟩ := Option.map_eq_some_iff.mp h
    exact entry_of_eq rfl rfl
  | bracket nested =>
    obtain ⟨piece, -, rfl⟩ := Option.map_eq_some_iff.mp h
    exact entry_of_eq rfl rfl
  | repeated least most isLazy =>
    obtain ⟨frame, hframe, hnext⟩ := Option.bind_eq_some_iff.mp h
    cases hnext
    refine entry_of_eq ?_ rfl
    unfold Frame.repeatLast at hframe
    split at hframe
    · cases hframe
    · split at hframe
      · cases hframe
        rfl
      · cases hframe
  | openGroup remembered name settings => exact entry_openGroup h
  | closeGroup => exact entry_closeGroup h
  | _ =>
    cases h
    exact entry_of_eq rfl rfl

/-- No tokens change what the outermost group was opened with. -/
theorem entry_foldlM_take (h : tokens.foldlM (take properties) reading = some next) :
    next.entry = reading.entry := by
  induction tokens generalizing reading with
  | nil =>
    cases h
    rfl
  | cons token tokens ih =>
    rw [List.foldlM_cons] at h
    obtain ⟨middle, htoken, hrest⟩ := Option.bind_eq_some_iff.mp h
    exact (ih hrest).trans (entry_take htoken)

end Reading

/-! ## Texts between anchors -/

/-- The piece of an expression between the start and the end of the text. -/
def Piece.anchored (piece : Piece) : Piece :=
  Piece.sequence [.assertion .textStart, piece.grouped none, .assertion .textEnd]

/-- The group and the sequence around an expression are two levels of nesting. -/
theorem Piece.depth_anchored (piece : Piece) : piece.anchored.depth = piece.depth + 2 := by
  simp [anchored, sequence, maxDepth, grouped, assertion]

/-- The frame around the group of an expression between anchors. -/
def Frame.anchor : Frame :=
  (Frame.start none {}).add (.assertion .textStart)

/-- Behind the start of the group, an expression between anchors is read like one alone. -/
theorem foldlM_take_anchored (tokens : List Token) :
    (.caret :: .openGroup false none [] :: tokens).foldlM (Reading.take properties) Reading.start =
      tokens.foldlM (Reading.take properties) (Reading.start.within [.anchor]) :=
  rfl

/-- The tokens of an expression between those of the anchors make up its piece between anchors. -/
theorem pieceOfTokens?_anchored {tokens : List Token} {piece : Piece}
    (h : pieceOfTokens? properties tokens = some piece) :
    pieceOfTokens? properties
        (.caret :: .openGroup false none [] :: tokens ++ [.closeGroup, .dollar]) =
      some piece.anchored := by
  obtain ⟨reading, houter, hread, rfl⟩ := pieceOfTokens?_eq_some_iff.mp h
  have hentry := Reading.entry_foldlM_take hread
  rw [pieceOfTokens?_eq_some_iff, List.cons_append, List.cons_append, foldlM_take_anchored,
    List.foldlM_append, Reading.foldlM_within hread]
  obtain ⟨flags, names, groups, ⟨number, outerFlags, branches, pieces⟩, outer⟩ := reading
  cases houter
  cases hentry
  exact ⟨_, rfl, rfl, rfl⟩

/-- The text of an expression between anchors. -/
def anchoredText (text : List Char) : List Char :=
  ['^', '(', '?', ':'] ++ text ++ [')', '$']

/-- A text between anchors is read behind the tokens of the anchor in front. -/
theorem tokens?_anchoredText {text : List Char} {tokens : List Token}
    (h : tokens? (anchoredText text) = some tokens) :
    ∃ others, tokens = .caret :: .openGroup false none [] :: others ∧
      tokensFrom? [false] (text ++ [')', '$']) = some others := by
  have hcaret (cs : List Char) : nextToken? false ('^' :: cs) = some (.caret, cs) := rfl
  have hgroup (cs : List Char) :
      nextToken? false ('(' :: '?' :: ':' :: cs) = some (.openGroup false none [], cs) := rfl
  change tokensFrom? [] ('^' :: '(' :: '?' :: ':' :: (text ++ [')', '$'])) = some tokens at h
  cases tokens with
  | nil => cases tokensFrom?_eq_some_nil_iff.mp h
  | cons first tokens =>
    obtain ⟨rest, hfirst, h⟩ := tokensFrom?_eq_some_cons_iff.mp h
    cases (hcaret _).symm.trans hfirst
    cases tokens with
    | nil => cases tokensFrom?_eq_some_nil_iff.mp h
    | cons second tokens =>
      obtain ⟨rest, hsecond, h⟩ := tokensFrom?_eq_some_cons_iff.mp h
      cases (hgroup _).symm.trans hsecond
      exact ⟨tokens, rfl, h⟩

/-- The `$` at the end of a text is a token of its own, whether blanks are passed over or not. -/
theorem tokensFrom?_dollar (spacing : Spacing) : tokensFrom? spacing ['$'] = some [.dollar] := by
  have hskip (verbose : Bool) : skip verbose ['$'] = ['$'] := by
    cases verbose <;> rfl
  have hend (verbose : Bool) : skip verbose [] = [] := by
    cases verbose <;> rfl
  refine tokensFrom?_eq_some_cons_iff.mpr ⟨[], ?_, tokensFrom?_eq_some_nil_iff.mpr (hend _)⟩
  unfold nextToken?
  rw [hskip]
  rfl

/-- A text writes one piece at most. -/
theorem Writes.unique {text : List Char} {piece other : Piece} (h : Writes properties text piece)
    (hother : Writes properties text other) : piece = other := by
  obtain ⟨tokens, htokens, hpiece⟩ := h
  obtain ⟨tokens', htokens', hpiece'⟩ := hother
  cases htokens.symm.trans htokens'
  exact Option.some_inj.mp (hpiece.symm.trans hpiece')

/-- A text that writes a piece does not close early: the parenthesis would be refused. -/
theorem Writes.not_closesEarly {text : List Char} {piece : Piece}
    (h : Writes properties text piece) : ¬ClosesEarly text := by
  rintro ⟨before, rest, hbegins, hcloses⟩
  obtain ⟨tokens, htokens, hpiece⟩ := h
  obtain ⟨last, -, hlast, -⟩ := pieceOfTokens?_eq_some_iff.mp hpiece
  obtain ⟨after, rfl⟩ := hbegins.exists_of_tokensFrom? htokens
  rw [List.foldlM_append] at hlast
  obtain ⟨middle, hmiddle, -⟩ := Option.bind_eq_some_iff.mp hlast
  have hopen := Reading.length_outer_foldlM_take hmiddle
  change _ = 0 + _ at hopen
  omega

/-- An end of a text with `)$` behind it that starts with a closing parenthesis starts with that of
the text or with the one behind it. -/
theorem suffix_append_anchor {text rest : List Char} (h : ')' :: rest <:+ text ++ [')', '$']) :
    rest = ['$'] ∨ ∃ inner, rest = inner ++ [')', '$'] := by
  obtain ⟨used, hused⟩ := h
  rcases List.append_eq_append_iff.mp hused with ⟨between, -, hbetween⟩ | ⟨between, -, hbetween⟩
  · rcases between with _ | ⟨c, between⟩
    · exact .inl (List.cons.inj hbetween).2
    · exact .inr ⟨between, (List.cons.inj hbetween).2⟩
  · rcases between with _ | ⟨c, _ | ⟨d, between⟩⟩
    · exact .inl (List.cons.inj hbetween).2.symm
    all_goals simp at hbetween

/-- An end of a text with `)$` behind it that has a closing parenthesis in it ends with that `)$`. -/
theorem exists_eq_append_anchor {text left rest : List Char} (hclose : ')' :: rest <:+ left)
    (hleft : left <:+ text ++ [')', '$']) : ∃ inner, left = inner ++ [')', '$'] := by
  obtain ⟨skipped, rfl⟩ := hclose
  rcases suffix_append_anchor ((List.suffix_append skipped _).trans hleft) with rfl | ⟨inner, rfl⟩
  · exact ⟨skipped, rfl⟩
  · exact ⟨skipped ++ ')' :: inner, by simp⟩

/-- A text that writes a piece between anchors writes one alone, and the whole is that piece between
the start and the end of the text, or the text closes early. -/
theorem writes_or_closesEarly {text : List Char} {whole : Piece}
    (h : Writes properties (anchoredText text) whole) :
    (∃ piece, Writes properties text piece ∧ whole = piece.anchored) ∨ ClosesEarly text := by
  obtain ⟨tokens, htokens, hwhole⟩ := h
  obtain ⟨tokens, rfl, hread⟩ := tokens?_anchoredText htokens
  obtain ⟨last, houter, hlast, -⟩ := pieceOfTokens?_eq_some_iff.mp hwhole
  rw [foldlM_take_anchored] at hlast
  rcases Reading.of_foldlM_within hlast with
    ⟨last, -, rfl⟩ | ⟨before, after, middle, rfl, hbefore, hmiddle⟩
  · -- The group of the anchors would still be open at the end.
    exact absurd houter (List.append_ne_nil_of_right_ne_nil _ (List.cons_ne_nil _ _))
  obtain ⟨left, hbegins, hleft⟩ := tokensFrom?_append_iff.mp hread
  obtain ⟨rest, hclose, hafter⟩ := tokensFrom?_eq_some_cons_iff.mp hleft
  rw [nextToken?_closeGroup_iff] at hclose
  have hrest : ')' :: rest <:+ left := hclose ▸ skip_suffix _ left
  obtain ⟨inner, rfl⟩ := exists_eq_append_anchor hrest hbegins.suffix
  have halike : Spacing.Alike [false] [] := fun i => by cases i <;> rfl
  have halone : Begins [] text before inner := hbegins.of_append_close.of_alike halike
  have hverbose := (halike.afterAll before).verbose
  have hcount := Reading.length_outer_foldlM_take hbefore
  rw [hmiddle] at hcount
  change 0 + _ = 0 + _ at hcount
  rcases suffix_append_anchor hrest with rfl | ⟨behind, rfl⟩
  · -- The parenthesis is the one behind the text.
    have hend : skip (Spacing.afterAll [] before).verbose inner = [] :=
      hverbose ▸ skip_of_append [] _ hclose
    have hpiece : pieceOfTokens? properties before = some middle.frame.finish :=
      pieceOfTokens?_eq_some_iff.mpr ⟨middle, hmiddle, hbefore, rfl⟩
    have hall : tokens? text = some before := by
      have happend := tokensFrom?_append_iff.mpr ⟨inner, halone, tokensFrom?_eq_some_nil_iff.mpr hend⟩
      rwa [List.append_nil] at happend
    cases (tokensFrom?_dollar _).symm.trans hafter
    have hanchored := pieceOfTokens?_anchored hpiece
    exact .inl ⟨_, ⟨before, hall, hpiece⟩, Option.some_inj.mp (hwhole.symm.trans hanchored)⟩
  · -- The parenthesis stands in the text.
    have hnext : skip (Spacing.afterAll [] before).verbose inner = ')' :: behind :=
      hverbose ▸ skip_of_append (')' :: behind) _ hclose
    refine .inr ⟨before ++ [.closeGroup], behind,
      halone.snoc (nextToken?_closeGroup_iff.mpr hnext), ?_⟩
    have hopened : opened (before ++ [.closeGroup]) = opened before + 0 := List.countP_append
    have hclosed : closed (before ++ [.closeGroup]) = closed before + 1 := List.count_append
    omega

/-- An expression is accepted when its text writes a piece within the limits. -/
theorem parseWith?_eq_some_iff {limit : Nat} {text : List Char} {r : Regex} :
    parseWith? properties limit text = some r ↔
      ∃ piece, Writes properties text piece ∧ piece.depth ≤ nestLimit ∧
        piece.plan.fits limit = true ∧ piece.regex = r := by
  unfold parseWith?
  simp only [Option.bind_eq_bind, Option.bind_eq_some_iff]
  constructor
  · rintro ⟨tokens, htokens, piece, hpiece, h⟩
    split at h
    · next hlimits =>
      rw [Bool.and_eq_true, decide_eq_true_iff] at hlimits
      exact ⟨piece, ⟨tokens, htokens, hpiece⟩, hlimits.1, hlimits.2, Option.some_inj.mp h⟩
    · cases h
  · rintro ⟨piece, ⟨tokens, htokens, hpiece⟩, hdepth, hfits, rfl⟩
    refine ⟨tokens, htokens, piece, hpiece, ?_⟩
    simp [hdepth, hfits]

end QueryGate.Regex

namespace QueryGate

namespace Plugin

open QueryGate.Regex

variable {properties : Properties} {parameter text : String} {accepts : Predicate}

/-- The regex plugin accepts an expression that can be read between anchors. -/
theorem regex_parse_eq_accepted_iff :
    (regexOver properties).parse parameter ("regex:" ++ text) = .accepted accepts ↔
      Text.trim text.toList ≠ [] ∧ ∃ r,
        parseWith? properties sizeLimit (anchoredText (Text.trim text.toList)) = some r ∧
          accepts = fun value => .ofBool (r.search value) := by
  have hcompile (expression : List Char) :
      (regexSyntaxOver properties).compile (String.ofList expression) =
        parseWith? properties sizeLimit (anchoredText expression) := by
    change parseWith? properties sizeLimit (_ ++ (String.ofList expression).toList ++ _) = _
    rw [String.toList_ofList]
    rfl
  change (regexSyntaxOver properties).parse ("regex:" ++ text) = _ ↔ _
  rw [ExpressionSyntax.parse,
    show (regexSyntaxOver properties).keyword = "regex:" from rfl, afterKeyword?_append]
  cases Text.trim text.toList with
  | nil => exact iff_of_false nofun fun h => h.1 rfl
  | cons c rest =>
    dsimp only
    rw [hcompile]
    cases parseWith? properties sizeLimit (anchoredText (c :: rest)) with
    | none => simp [ExpressionSyntax.outcome]
    | some r => simp [ExpressionSyntax.outcome, eq_comm]

/-- The regex plugin is a test of the whole value, unless the expression closes the group that the
plugin puts around it. An accepted expression is well-formed alone exactly when it does not close
that group. It is then within the limit on nesting, and a value is accepted exactly when the
expression matches it from its first to its last character. Whether the expression closes the group
is read from its tokens, so a parenthesis in a set, behind a backslash or in a comment does not. -/
theorem regex_accepts_iff_covers
    (h : (regexOver properties).parse parameter ("regex:" ++ text) = .accepted accepts) :
    ((∃ piece, Writes properties (Text.trim text.toList) piece) ↔
        ¬ClosesEarly (Text.trim text.toList)) ∧
      ∀ piece, Writes properties (Text.trim text.toList) piece → piece.depth ≤ nestLimit ∧
        ∀ value, accepts value = .accept ↔ piece.regex.Covers value := by
  obtain ⟨-, r, hr, rfl⟩ := regex_parse_eq_accepted_iff.mp h
  obtain ⟨whole, hwhole, hdepth, -, rfl⟩ := parseWith?_eq_some_iff.mp hr
  have halone := writes_or_closesEarly hwhole
  refine ⟨⟨fun ⟨piece, hpiece⟩ => hpiece.not_closesEarly, fun hopen => ?_⟩, fun piece hpiece => ?_⟩
  · obtain ⟨piece, hpiece, -⟩ := halone.resolve_right hopen
    exact ⟨piece, hpiece⟩
  · obtain ⟨piece', hpiece', rfl⟩ := halone.resolve_right hpiece.not_closesEarly
    obtain rfl := hpiece'.unique hpiece
    rw [Piece.depth_anchored] at hdepth
    refine ⟨by omega, fun value => ?_⟩
    rw [← search_anchored_iff piece'.regex value]
    exact Verdict.ofBool_eq_accept_iff

/-- An optional group is well-formed alone and decides on whole values, although a comment in it
holds a closing parenthesis. -/
theorem regex_covers_optional_group :
    ∃ accepts, (regexOver .basic).parse "p" ("regex:" ++ " (?x)(a|bc # not d)\n)? ") =
        .accepted accepts ∧
      ((∃ piece, Writes .basic (Text.trim " (?x)(a|bc # not d)\n)? ".toList) piece) ↔
        ¬ClosesEarly (Text.trim " (?x)(a|bc # not d)\n)? ".toList)) ∧
      ∀ piece, Writes .basic (Text.trim " (?x)(a|bc # not d)\n)? ".toList) piece →
        piece.depth ≤ nestLimit ∧
          ∀ value, accepts value = .accept ↔ piece.regex.Covers value :=
  have h := regex_parse_eq_accepted_iff.mpr ⟨by decide, .sequence (.assertion .textStart)
    (.sequence (.sequence .empty
      (.repeated (.either (.char 'a') (.sequence (.char 'b') (.char 'c'))) 0 (some 1)))
      (.assertion .textEnd)), by decide +kernel, rfl⟩
  ⟨_, h, regex_accepts_iff_covers h⟩

/-- An expression that closes the group around it is accepted although it is not well-formed alone,
and then values with anything behind a match or in front of one are accepted. -/
theorem regex_accepts_unopened_parenthesis :
    ∃ accepts, (regexOver .basic).parse "p" ("regex:" ++ "a)|(b") = .accepted accepts ∧
      accepts "ax" = .accept ∧ accepts "xb" = .accept ∧
      ¬∃ piece, Writes .basic (Text.trim "a)|(b".toList) piece := by
  refine ⟨_, regex_parse_eq_accepted_iff.mpr ⟨by decide, .either
    (.sequence (.assertion .textStart) (.char 'a')) (.sequence (.char 'b') (.assertion .textEnd)),
    by decide +kernel, rfl⟩, by decide +kernel, by decide +kernel, ?_⟩
  rintro ⟨piece, hpiece⟩
  have hclose : Begins [] [')', '|', '(', 'b'] [.closeGroup] ['|', '(', 'b'] := .cons rfl .nil
  have hbegins : Begins [] (Text.trim "a)|(b".toList) [.atom (.literal 'a'), .closeGroup]
      ['|', '(', 'b'] := .cons rfl hclose
  exact hpiece.not_closesEarly ⟨_, _, hbegins, by decide⟩

end Plugin

end QueryGate
