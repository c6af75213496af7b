import QueryGate.Regex.Bracket
import QueryGate.Text.Letter
import QueryGate.Text.Numeral

/-!
# Tokens of the expression syntax

The text of an expression is read into tokens before any structure is given to it: characters,
sets, assertions, repetition signs, group brackets, flags and bars. Of the flags in force only the
one that makes blanks no part of the expression is known here; a token keeps what the others may
still decide.
-/

namespace QueryGate.Regex

open QueryGate.Text

/-- A flag that changes how the expression after it is understood. -/
inductive Flag where
  /-- Case does not matter. -/
  | caseless
  /-- Lines have starts and ends of their own. -/
  | multiLine
  /-- The dot matches a line feed too. -/
  | dotAll
  /-- Repetitions prefer the other length. -/
  | swapGreed
  /-- Classes are those of all scripts. -/
  | unicode
  /-- Lines may end with a carriage return. -/
  | carriageReturn
  /-- Blanks and comments are not part of the expression. -/
  | verbose
  deriving DecidableEq, Repr

/-- The flag that a letter stands for. -/
def Flag.ofChar? : Char → Option Flag
  | 'i' => some .caseless
  | 'm' => some .multiLine
  | 's' => some .dotAll
  | 'U' => some .swapGreed
  | 'u' => some .unicode
  | 'R' => some .carriageReturn
  | 'x' => some .verbose
  | _ => none

/-- A flag and whether it is turned on. -/
abbrev FlagSetting := Flag × Bool

/-- A token of an expression. -/
inductive Token where
  /-- A character, a class or an assertion, written as itself or as an escape. -/
  | atom (escape : Escape)
  /-- The dot. -/
  | dot
  /-- The `^`. -/
  | caret
  /-- The `$`. -/
  | dollar
  /-- A bracketed set. -/
  | bracket (set : NestedSet)
  /-- A repetition of what precedes it, which prefers more rounds unless it is lazy. -/
  | repeated (least : Nat) (most : Option Nat) (isLazy : Bool)
  /-- The start of a group. Its match may be remembered, and it may have a name and flags. -/
  | openGroup (remembered : Bool) (name : Option (List Char)) (flags : List FlagSetting)
  /-- Flags for the rest of the group. -/
  | setFlags (flags : List FlagSetting)
  /-- The end of a group. -/
  | closeGroup
  /-- The bar between two branches. -/
  | bar
  deriving DecidableEq, Repr

/-! ## Repetitions -/

/-- The greatest count a repetition may give. -/
def maxCount : Nat := Nat.pow 2 32 - 1

/-- Reads a count, with blanks on either side. -/
def readCount (verbose : Bool) (cs : List Char) : Option (Nat × List Char) :=
  let (digits, rest) := readRun verbose Char.isDigit (trimStart (skip verbose cs))
  (digits? digits).bind fun n => if n ≤ maxCount then some (n, trimStart rest) else none

/-- Without its leading blanks an end of the text is left. -/
theorem trimStart_suffix (cs : List Char) : trimStart cs <:+ cs :=
  List.dropWhile_suffix _

/-- Reading a count leaves an end of the text. -/
theorem readCount_suffix {verbose : Bool} {cs rest : List Char} {n : Nat}
    (h : readCount verbose cs = some (n, rest)) : rest <:+ cs := by
  have hrun := readRun_suffix verbose Char.isDigit (trimStart (skip verbose cs))
  obtain ⟨value, -, h⟩ := Option.bind_eq_some_iff.mp h
  split at h
  · cases h
    exact (trimStart_suffix _).trans
      (hrun.trans ((trimStart_suffix _).trans (skip_suffix verbose cs)))
  · cases h

/-- Reads the greatest count and the brace behind it, when the least count and a comma are read. -/
def readMost (verbose : Bool) (least : Nat) (cs : List Char) :
    Option ((Nat × Option Nat) × List Char) :=
  match skip verbose cs with
  | '\x7d' :: rest => some ((least, none), rest)
  | cs =>
    match readCount verbose cs with
    | some (most, '\x7d' :: rest) =>
      if least ≤ most then some ((least, some most), rest) else none
    | _ => none

/-- Reading the greatest count leaves an end of the text. -/
theorem readMost_suffix {verbose : Bool} {least : Nat} {cs rest : List Char}
    {counts : Nat × Option Nat} (h : readMost verbose least cs = some (counts, rest)) :
    rest <:+ cs := by
  have hskip := skip_suffix verbose cs
  unfold readMost at h
  split at h
  · next after heq =>
    cases h
    rw [heq] at hskip
    exact (List.suffix_cons _ _).trans hskip
  · split at h
    · next most after hmost =>
      split at h
      · cases h
        exact ((List.suffix_cons _ _).trans (readCount_suffix hmost)).trans hskip
      · cases h
    · cases h

/-- Reads what follows the least count. -/
def readBehindLeast (verbose : Bool) (least : Nat) (cs : List Char) :
    Option ((Nat × Option Nat) × List Char) :=
  match cs with
  | '\x7d' :: rest => some ((least, some least), rest)
  | ',' :: rest => readMost verbose least rest
  | _ => none

/-- Reads a counted repetition, of which the opening brace is already taken. -/
def readCounts (verbose : Bool) (cs : List Char) : Option ((Nat × Option Nat) × List Char) :=
  (readCount verbose cs).bind fun (least, rest) => readBehindLeast verbose least rest

/-- Reading a counted repetition leaves an end of the text. -/
theorem readCounts_suffix {verbose : Bool} {cs rest : List Char} {counts : Nat × Option Nat}
    (h : readCounts verbose cs = some (counts, rest)) : rest <:+ cs := by
  obtain ⟨⟨least, after⟩, hleast, h⟩ := Option.bind_eq_some_iff.mp h
  dsimp only at h
  unfold readBehindLeast at h
  split at h
  · cases h
    exact (List.suffix_cons _ _).trans (readCount_suffix hleast)
  · exact ((readMost_suffix h).trans (List.suffix_cons _ _)).trans (readCount_suffix hleast)
  · cases h

/-- Splits off the `?` that makes a repetition prefer fewer rounds; blanks may stand in front of it
where they are passed over. -/
def splitLazy (verbose : Bool) (cs : List Char) : Bool × List Char :=
  match skip verbose cs with
  | '?' :: rest => (true, rest)
  | _ => (false, cs)

/-- Splitting the sign off leaves an end of the text. -/
theorem splitLazy_suffix (verbose : Bool) (cs : List Char) : (splitLazy verbose cs).2 <:+ cs := by
  have hskip := skip_suffix verbose cs
  unfold splitLazy
  split
  · next rest heq =>
    rw [heq] at hskip
    exact (List.suffix_cons _ rest).trans hskip
  · exact List.suffix_refl cs

/-- A repetition, of which the counts are already read. -/
def repetition (verbose : Bool) (least : Nat) (most : Option Nat) (cs : List Char) :
    Token × List Char :=
  let (isLazy, rest) := splitLazy verbose cs
  (.repeated least most isLazy, rest)

/-! ## Groups -/

/-- Reads flag letters up to the `:` or `)` behind them, and gives back that sign too. A `-` turns
the flags after it off; it may stand once and not last, and no flag may be named twice. -/
def readFlags (on : Bool) (seen : List FlagSetting) (cs : List Char) :
    Option (List FlagSetting × Char × List Char) :=
  match cs with
  | [] => none
  | c :: rest =>
    if c == ':' || c == ')' then some (seen, c, rest)
    else if c == '-' then
      match rest with
      | [] => none
      | d :: _ => if !on || d == ':' || d == ')' then none else readFlags false seen rest
    else
      match Flag.ofChar? c with
      | some flag =>
        if seen.any (·.1 == flag) then none else readFlags on (seen ++ [(flag, on)]) rest
      | none => none

/-- Reading flags leaves an end of the text. -/
theorem readFlags_suffix {on : Bool} {seen flags : List FlagSetting} {cs rest : List Char}
    {ending : Char} (h : readFlags on seen cs = some (flags, ending, rest)) : rest <:+ cs := by
  fun_induction readFlags on seen cs with
  | case1 | case3 | case4 | case6 | case8 => cases h
  | case2 =>
    cases h
    exact List.suffix_cons _ _
  | case5 _ _ _ _ _ _ _ _ ih => exact (ih h).trans (List.suffix_cons _ _)
  | case7 _ _ _ _ _ _ _ _ _ ih => exact (ih h).trans (List.suffix_cons _ _)

/-- Whether a name may start with the character. -/
def isNameStart (c : Char) : Bool :=
  c == '_' || isAlphabetic c

/-- Whether a name may go on with the character. -/
def isNameChar (c : Char) : Bool :=
  c == '_' || c == '.' || c == '[' || c == ']' || isAlphanumeric c

/-- The token of a group with a name, if the name may stand. -/
def namedGroup? (name : List Char) : Option Token :=
  match name with
  | [] => none
  | c :: more =>
    if isNameStart c && more.all isNameChar then some (.openGroup true (some name) []) else none

/-- Reads the name of a group up to the `>` behind it. -/
def readGroupName (cs : List Char) : Option (Token × List Char) :=
  (cutAt? '>' cs).bind fun (name, rest) => (namedGroup? name).map (·, rest)

/-- Reading the name of a group leaves an end of the text. -/
theorem readGroupName_suffix {cs rest : List Char} {token : Token}
    (h : readGroupName cs = some (token, rest)) : rest <:+ cs := by
  obtain ⟨⟨name, after⟩, hcut, h⟩ := Option.bind_eq_some_iff.mp h
  obtain ⟨_, -, heq⟩ := Option.map_eq_some_iff.mp h
  cases heq
  exact cutAt?_suffix hcut

/-- The token of a group with flags, or of flags alone, by what ends the flags. -/
def flagGroup? (flags : List FlagSetting) (ending : Char) : Option Token :=
  if ending == ':' then some (.openGroup false none flags)
  else if flags.isEmpty then none
  else some (.setFlags flags)

/-- Reads the start of a group that flags follow, or a change of flags. -/
def readFlagGroup (cs : List Char) : Option (Token × List Char) :=
  (readFlags true [] cs).bind fun (flags, ending, rest) =>
    (flagGroup? flags ending).map (·, rest)

/-- Reading the start of a group with flags leaves an end of the text. -/
theorem readFlagGroup_suffix {cs rest : List Char} {token : Token}
    (h : readFlagGroup cs = some (token, rest)) : rest <:+ cs := by
  obtain ⟨⟨flags, ending, after⟩, hflags, h⟩ := Option.bind_eq_some_iff.mp h
  obtain ⟨_, -, heq⟩ := Option.map_eq_some_iff.mp h
  cases heq
  exact readFlags_suffix hflags

/-- Reads the name of a group between angle brackets. -/
def readAngledName (cs : List Char) : Option (Token × List Char) :=
  match cs with
  | '<' :: rest => readGroupName rest
  | _ => none

/-- Reading a name between angle brackets leaves an end of the text. -/
theorem readAngledName_suffix {cs rest : List Char} {token : Token}
    (h : readAngledName cs = some (token, rest)) : rest <:+ cs := by
  unfold readAngledName at h
  split at h
  · exact (readGroupName_suffix h).trans (List.suffix_cons '<' _)
  · cases h

/-- Reads what follows the `(?` of a group. Look-around is not part of the syntax: what it is written
with neither starts a name nor stands for a flag. -/
def readSpecialGroup (cs : List Char) : Option (Token × List Char) :=
  match cs with
  | 'P' :: rest => readAngledName rest
  | '<' :: _ => readAngledName cs
  | _ => readFlagGroup cs

/-- Reading what follows the `(?` of a group leaves an end of the text. -/
theorem readSpecialGroup_suffix {cs rest : List Char} {token : Token}
    (h : readSpecialGroup cs = some (token, rest)) : rest <:+ cs := by
  unfold readSpecialGroup at h
  split at h
  · exact (readAngledName_suffix h).trans (List.suffix_cons 'P' _)
  · exact readAngledName_suffix h
  · exact readFlagGroup_suffix h

/-- Reads the start of a group, of which the parenthesis is already taken, or a change of flags. -/
def readGroup (verbose : Bool) (cs : List Char) : Option (Token × List Char) :=
  match skip verbose cs with
  | '?' :: rest => readSpecialGroup rest
  | _ => some (.openGroup true none [], cs)

/-- Reading the start of a group leaves an end of the text. -/
theorem readGroup_suffix {verbose : Bool} {cs rest : List Char} {token : Token}
    (h : readGroup verbose cs = some (token, rest)) : rest <:+ cs := by
  have hskip := skip_suffix verbose cs
  unfold readGroup at h
  split at h
  · next after heq =>
    rw [heq] at hskip
    exact ((readSpecialGroup_suffix h).trans (List.suffix_cons '?' after)).trans hskip
  · cases h
    exact List.suffix_refl _

/-! ## Tokens -/

/-- Reads the next token, which starts with `c`. -/
def readToken (verbose : Bool) (c : Char) (cs : List Char) : Option (Token × List Char) :=
  match c with
  | '(' => readGroup verbose cs
  | ')' => some (.closeGroup, cs)
  | '|' => some (.bar, cs)
  | '*' => some (repetition false 0 none cs)
  | '+' => some (repetition false 1 none cs)
  | '?' => some (repetition false 0 (some 1) cs)
  | '\x7b' =>
    (readCounts verbose cs).map fun ((least, most), rest) => repetition verbose least most rest
  | '[' => (readBracket verbose cs).map fun (set, rest) => (.bracket set, rest)
  | '\\' => (readEscape verbose cs).map fun (escape, rest) => (.atom escape, rest)
  | '.' => some (.dot, cs)
  | '^' => some (.caret, cs)
  | '$' => some (.dollar, cs)
  | _ => some (.atom (.literal c), cs)

/-- Reading a token that starts with a given character leaves an end of what follows it. -/
theorem readToken_suffix {verbose : Bool} {c : Char} {cs rest : List Char} {token : Token}
    (h : readToken verbose c cs = some (token, rest)) : rest <:+ cs := by
  unfold readToken at h
  split at h
  · exact readGroup_suffix h
  · cases h
    exact List.suffix_refl _
  · cases h
    exact List.suffix_refl _
  · cases h
    exact splitLazy_suffix false cs
  · cases h
    exact splitLazy_suffix false cs
  · cases h
    exact splitLazy_suffix false cs
  · obtain ⟨⟨counts, after⟩, hcounts, h⟩ := Option.map_eq_some_iff.mp h
    cases h
    exact (splitLazy_suffix verbose after).trans (readCounts_suffix hcounts)
  · obtain ⟨⟨set, after⟩, hset, h⟩ := Option.map_eq_some_iff.mp h
    cases h
    exact readBracket_suffix hset
  · obtain ⟨⟨escape, after⟩, hescape, h⟩ := Option.map_eq_some_iff.mp h
    cases h
    cases cs with
    | nil => cases hescape
    | cons d cs => exact (readEscape_suffix hescape).trans (List.suffix_cons d cs)
  all_goals
    cases h
    exact List.suffix_refl _

/-! ## Where blanks are no part of the expression -/

/-- Whether blanks are passed over in the innermost group and in those around it; beyond the list
they are not. -/
abbrev Spacing := List Bool

/-- Whether blanks are passed over. -/
def Spacing.verbose (spacing : Spacing) : Bool :=
  spacing.headD false

/-- What flags say about blanks, if anything. -/
def verboseOf (flags : List FlagSetting) : Option Bool :=
  (flags.find? fun setting => setting.1 == .verbose).map Prod.snd

/-- What becomes of blanks behind a token. -/
def Spacing.after (spacing : Spacing) (token : Token) : Spacing :=
  match token with
  | .openGroup _ _ flags => (verboseOf flags).getD spacing.verbose :: spacing
  | .setFlags flags => (verboseOf flags).getD spacing.verbose :: spacing.tail
  | .closeGroup => spacing.tail
  | _ => spacing

/-- Reads the next token behind what is passed over. -/
def nextToken? (verbose : Bool) (cs : List Char) : Option (Token × List Char) :=
  match skip verbose cs with
  | [] => none
  | c :: rest => readToken verbose c rest

/-- The next token uses text up. -/
theorem length_lt_of_nextToken? {verbose : Bool} {cs rest : List Char} {token : Token}
    (h : nextToken? verbose cs = some (token, rest)) : rest.length < cs.length := by
  unfold nextToken? at h
  split at h
  · cases h
  · next c after hskip =>
    have hlt := length_lt_of_skip hskip
    have hle := (readToken_suffix h).length_le
    omega

/-- The tokens of a text, in which blanks are passed over as given. -/
def tokensFrom? (spacing : Spacing) (cs : List Char) : Option (List Token) :=
  if (skip spacing.verbose cs).isEmpty then some []
  else
    match _h : nextToken? spacing.verbose cs with
    | none => none
    | some (token, after) => (tokensFrom? (spacing.after token) after).map (token :: ·)
termination_by cs.length
decreasing_by exact length_lt_of_nextToken? _h

/-- The tokens of an expression. -/
def tokens? (cs : List Char) : Option (List Token) :=
  tokensFrom? [] cs

end QueryGate.Regex
