import QueryGate.Glob
import QueryGate.Proofs.Anchoring
import QueryGate.Proofs.Globs

/-!
# The text that a glob is compiled from

A glob is rewritten as the text of an expression: the characters between two wildcards are gathered,
written so that each stands for itself, and each wildcard is written as what it means. Reading that
text gives the tokens of every character of the glob in a row, between those of the two anchors. So
the text is refused only for the size of its program, and what it is compiled to finds exactly the
texts that fill the glob without a line feed in place of a wildcard.
-/

namespace QueryGate.Glob

open QueryGate.Regex

variable {singles : Bool} {c : Char}

/-! ## The text, character by character -/

/-- What a character of a glob is written as. -/
def charSource (singles : Bool) (c : Char) : List Char :=
  (wildcard? singles c).getD (escapeChar c)

/-- What a draft comes to is written behind what it came to before each character. -/
theorem written_flush_take (singles : Bool) (draft : Draft) (c : Char) :
    (draft.take singles c).flush.written = draft.flush.written ++ charSource singles c := by
  unfold Draft.take charSource
  cases wildcard? singles c with
  | some text => simp [Draft.flush, Draft.write, escape]
  | none => simp [Draft.flush, escape]

/-- Gathering the characters that stand for themselves changes nothing in what is written. -/
theorem source_eq (singles : Bool) (glob : String) :
    source singles glob = '^' :: glob.toList.flatMap (charSource singles) ++ ['$'] := by
  have hdraft (cs : List Char) (draft : Draft) :
      (cs.foldl (Draft.take singles) draft).flush.written =
        draft.flush.written ++ cs.flatMap (charSource singles) := by
    induction cs generalizing draft with
    | nil => simp
    | cons c cs ih =>
      rw [List.foldl_cons, ih, written_flush_take, List.append_assoc, List.flatMap_cons]
  unfold source
  rw [Draft.write, hdraft]
  rfl

/-! ## Tokens -/

/-- The tokens of a character of a glob. -/
def charTokens (singles : Bool) (c : Char) : List Token :=
  if c == '*' then [.dot, .repeated 0 none false]
  else if singles && c == '?' then [.dot]
  else [.atom (.literal c)]

/-- A character without a meaning of its own is a token by itself. -/
theorem readToken_of_not_isMeta (h : isMeta c = false) (cs : List Char) :
    readToken false c cs = some (.atom (.literal c), cs) := by
  unfold readToken
  split <;> first | rfl | (exact absurd h (by decide))

/-- A character with a meaning of its own stands for itself behind a backslash. -/
theorem readToken_of_isMeta (h : isMeta c = true) (cs : List Char) :
    readToken false '\\' (c :: cs) = some (.atom (.literal c), cs) := by
  simp only [isMeta, List.contains_eq_mem, List.mem_cons, List.not_mem_nil, or_false,
    decide_eq_true_eq] at h
  rcases h with rfl | rfl | rfl | rfl | rfl | rfl | rfl | rfl | rfl | rfl | rfl | rfl | rfl | rfl |
    rfl | rfl | rfl | rfl <;> rfl

/-- No character of a glob is written with a `?` in front. -/
theorem head?_source_ne (cs : List Char) :
    (cs.flatMap (charSource singles) ++ ['$']).head? ≠ some '?' := by
  cases cs with
  | nil => exact nofun
  | cons c cs =>
    unfold charSource wildcard? escapeChar
    rw [List.flatMap_cons]
    split
    · simp
    split
    · simp
    · by_cases hmeta : isMeta c = true
      · simp [hmeta]
      · have hne : c ≠ '?' := by
          rintro rfl
          exact hmeta rfl
        simpa [hmeta] using hne

/-- A repetition sign that no `?` follows prefers more rounds. -/
theorem repetition_of_head?_ne {cs : List Char} (h : cs.head? ≠ some '?') (least : Nat)
    (most : Option Nat) :
    repetition false least most cs = (.repeated least most false, cs) := by
  unfold repetition splitLazy
  split
  · next heq =>
    split at heq
    · next rest hskip =>
      obtain rfl : cs = '?' :: rest := hskip
      exact absurd rfl h
    · cases heq
      rfl

/-- What a character of a glob is written as has its tokens. -/
theorem tokensFrom?_charSource (singles : Bool) (c : Char) {rest : List Char} {tokens : List Token}
    (hrest : rest.head? ≠ some '?') (h : tokensFrom? [] rest = some tokens) :
    tokensFrom? [] (charSource singles c ++ rest) = some (charTokens singles c ++ tokens) := by
  have hdot (more : List Token) {after : List Char} (hafter : tokensFrom? [] after = some more) :
      tokensFrom? [] ('.' :: after) = some (.dot :: more) :=
    tokensFrom?_eq_some_cons_iff.mpr ⟨after, rfl, hafter⟩
  unfold charSource wildcard? charTokens
  split
  · have hstar : tokensFrom? [] ('*' :: rest) = some (.repeated 0 none false :: tokens) := by
      refine tokensFrom?_eq_some_cons_iff.mpr ⟨rest, ?_, h⟩
      exact congrArg some (repetition_of_head?_ne hrest 0 none)
    exact hdot _ hstar
  split
  · exact hdot _ h
  · rw [Option.getD_none, escapeChar]
    by_cases hmeta : isMeta c = true
    · rw [if_pos hmeta]
      exact tokensFrom?_eq_some_cons_iff.mpr ⟨rest, readToken_of_isMeta hmeta rest, h⟩
    · rw [if_neg hmeta]
      exact tokensFrom?_eq_some_cons_iff.mpr
        ⟨rest, readToken_of_not_isMeta (Bool.eq_false_of_not_eq_true hmeta) rest, h⟩

/-- The text of a glob has the tokens of its characters between those of the anchors. -/
theorem tokens?_source (singles : Bool) (glob : String) :
    tokens? (source singles glob) =
      some (.caret :: glob.toList.flatMap (charTokens singles) ++ [.dollar]) := by
  rw [source_eq, List.cons_append, List.cons_append]
  refine tokensFrom?_eq_some_cons_iff.mpr ⟨_, rfl, ?_⟩
  change tokensFrom? [] _ = _
  induction glob.toList with
  | nil => exact tokensFrom?_dollar []
  | cons c cs ih =>
    rw [List.flatMap_cons, List.flatMap_cons, List.append_assoc, List.append_assoc]
    exact tokensFrom?_charSource singles c (head?_source_ne cs) ih

/-! ## Pieces -/

/-- The piece of a character of a glob. -/
def piece (singles : Bool) (c : Char) : Piece :=
  if c == '*' then (Piece.step .notLineFeed .unicode 0).inRounds 0 none true
  else if singles && c == '?' then Piece.step .notLineFeed .unicode 0
  else Piece.step (.only c) .unicode 0

/-- The piece of a glob, between the start and the end of the text. -/
def whole (singles : Bool) (glob : List Char) : Piece :=
  Piece.sequence
    (Piece.assertion .textStart :: glob.map (piece singles) ++ [Piece.assertion .textEnd])

/-- The program of a glob is not too large. -/
def Fits (singles : Bool) (glob : String) : Prop :=
  (whole singles glob.toList).plan.fits defaultSizeLimit = true

/-- The size of a program can be computed. -/
instance (singles : Bool) (glob : String) : Decidable (Fits singles glob) :=
  inferInstanceAs (Decidable (_ = true))

/-- The tokens of a character add its piece. -/
theorem foldlM_take_charTokens (singles : Bool) (c : Char) {reading : Reading}
    (hflags : reading.flags = {}) :
    (charTokens singles c).foldlM (Reading.take .basic) reading =
      some (reading.add (piece singles c)) := by
  obtain ⟨flags, names, groups, frame, outer⟩ := reading
  obtain rfl : flags = {} := hflags
  unfold charTokens piece
  split
  · rfl
  split
  · rfl
  · rfl

/-- The tokens of a glob add its pieces, the latest in front. -/
theorem foldlM_take_flatMap (singles : Bool) (glob : List Char) (names : List (List Char))
    (groups : Nat) (frame : Frame) (outer : List Frame) :
    (glob.flatMap (charTokens singles)).foldlM (Reading.take .basic)
        ⟨{}, names, groups, frame, outer⟩ =
      some ⟨{}, names, groups,
        { frame with pieces := (glob.map (piece singles)).reverse ++ frame.pieces }, outer⟩ := by
  induction glob generalizing frame with
  | nil => rfl
  | cons c glob ih =>
    rw [List.flatMap_cons, List.foldlM_append, foldlM_take_charTokens singles c rfl]
    change (glob.flatMap (charTokens singles)).foldlM (Reading.take .basic)
      ⟨{}, names, groups, frame.add (piece singles c), outer⟩ = _
    rw [ih]
    simp [Frame.add]

/-- The text of a glob writes the piece of the glob. -/
theorem writes_source (singles : Bool) (glob : String) :
    Writes .basic (source singles glob) (whole singles glob.toList) := by
  refine ⟨_, tokens?_source singles glob, pieceOfTokens?_eq_some_iff.mpr ?_⟩
  let pieces := Piece.assertion .textEnd ::
    ((glob.toList.map (piece singles)).reverse ++ [Piece.assertion .textStart])
  refine ⟨⟨{}, [], 0, ⟨none, {}, [], pieces⟩, []⟩, rfl, ?_, ?_⟩
  · change (glob.toList.flatMap (charTokens singles) ++ [Token.dollar]).foldlM (Reading.take .basic)
      ⟨{}, [], 0, (Frame.start none {}).add (Piece.assertion .textStart), []⟩ = _
    rw [List.foldlM_append, foldlM_take_flatMap]
    rfl
  · simp [Frame.finish, Frame.branch, whole, pieces]

/-- The greatest depth is that of a piece. -/
theorem maxDepth_le {pieces : List Piece} {bound : Nat} (h : ∀ piece ∈ pieces, piece.depth ≤ bound) :
    maxDepth pieces ≤ bound := by
  have hfold (depths : List Nat) (least : Nat) (hleast : least ≤ bound)
      (hdepths : ∀ depth ∈ depths, depth ≤ bound) : depths.foldl max least ≤ bound := by
    induction depths generalizing least with
    | nil => exact hleast
    | cons depth depths ih =>
      obtain ⟨hfirst, hothers⟩ := List.forall_mem_cons.mp hdepths
      exact ih _ (Nat.max_le.mpr ⟨hleast, hfirst⟩) hothers
  exact hfold _ 0 (Nat.zero_le _) (List.forall_mem_map.mpr h)

/-- A glob nests two levels deep at most. -/
theorem depth_whole_le (singles : Bool) (glob : List Char) : (whole singles glob).depth ≤ 2 := by
  have hpiece (c : Char) : (piece singles c).depth ≤ 1 := by
    unfold piece
    split
    · exact Nat.le_refl 1
    split <;> exact Nat.zero_le 1
  have hpieces : maxDepth
      (Piece.assertion .textStart :: glob.map (piece singles) ++ [Piece.assertion .textEnd]) ≤ 1 := by
    refine maxDepth_le fun p hp => ?_
    rcases List.mem_append.mp hp with hp | hp
    · rcases List.mem_cons.mp hp with rfl | hp
      · exact Nat.zero_le 1
      · obtain ⟨c, -, rfl⟩ := List.mem_map.mp hp
        exact hpiece c
    · obtain rfl := List.mem_singleton.mp hp
      exact Nat.zero_le 1
  unfold whole Piece.sequence
  dsimp only
  split <;> omega

/-- A glob is refused only for the size of its program. -/
theorem compile?_eq_some_iff {glob : String} {r : Regex} :
    compile? singles glob = some r ↔ Fits singles glob ∧ (whole singles glob.toList).regex = r := by
  unfold compile?
  rw [parseWith?_eq_some_iff]
  constructor
  · rintro ⟨written, hwrites, -, hfits, rfl⟩
    obtain rfl := hwrites.unique (writes_source singles glob)
    exact ⟨hfits, rfl⟩
  · rintro ⟨hfits, rfl⟩
    have hdepth : (whole singles glob.toList).depth ≤ nestLimit :=
      (depth_whole_le singles glob.toList).trans (by decide)
    exact ⟨_, writes_source singles glob, hdepth, hfits, rfl⟩

/-! ## What is found -/

/-- The parts of the piece are those of the glob. -/
theorem regex_whole (singles : Bool) (glob : List Char) :
    (whole singles glob).regex = sequenceAll
      (assertion .textStart :: glob.map (part singles) ++ [assertion .textEnd]) := by
  have hpart (c : Char) : (piece singles c).regex = part singles c := by
    unfold piece part
    split
    · rfl
    split <;> rfl
  have hparts : (glob.map (piece singles)).map Piece.regex = glob.map (part singles) := by
    rw [List.map_map]
    exact List.map_congr_left fun c _ => hpart c
  change sequenceAll ((_ :: _ ++ _).map Piece.regex) = _
  rw [List.map_append, List.map_cons, hparts]
  rfl

/-- Between the start and the end of the text, parts are found exactly in the texts that they match
as a whole. -/
theorem search_anchored_parts_iff (rs : List Regex) (text : String) :
    (sequenceAll (assertion .textStart :: rs ++ [assertion .textEnd])).search text = true ↔
      (sequenceAll rs).Covers text := by
  have hleads (i j : Nat) :
      (sequenceAll (assertion .textStart :: rs ++ [assertion .textEnd])).Leads text.toList i j ↔
        (sequence (assertion .textStart) (sequence (sequenceAll rs) (assertion .textEnd))).Leads
          text.toList i j := by
    rw [List.cons_append, leads_sequenceAll_cons]
    simp only [leads_sequenceAll_append]
    rfl
  rw [← search_anchored_iff, search_iff, search_iff]
  simp only [hleads]

/-- A compiled glob finds exactly the texts that fill the glob without a line feed in place of a
wildcard. -/
theorem search_compile?_iff_fillsWith {glob : String} (hfits : Fits singles glob) (text : String) :
    (compile? singles glob).any (·.search text) = true ↔
      FillsWith (· ≠ '\n') singles glob.toList text.toList := by
  rw [compile?_eq_some_iff.mpr ⟨hfits, rfl⟩, Option.any_some, regex_whole,
    search_anchored_parts_iff, covers_parts_iff_fillsWith]

/-- A compiled glob finds exactly the texts that fill the glob, among those without a line feed. -/
theorem search_compile?_iff {glob : String} (hfits : Fits singles glob) {text : String}
    (hline : '\n' ∉ text.toList) :
    (compile? singles glob).any (·.search text) = true ↔
      Fills singles glob.toList text.toList := by
  rw [search_compile?_iff_fillsWith hfits]
  exact fillsWith_iff_fills fun c hc hfeed => hline (hfeed ▸ hc)

end QueryGate.Glob
