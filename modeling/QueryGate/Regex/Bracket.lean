import QueryGate.Regex.Escape
import QueryGate.Regex.SetExpr

/-!
# Bracketed character sets

A set between square brackets lists characters, ranges, named classes and further bracketed sets,
and combines lists by intersection, difference and symmetric difference, all of one precedence and
from left to right. Reading goes through the text once and keeps the sets that are still open on
a stack. Beside the set, the depth of its nesting is counted, since expressions may only nest to
a limit.
-/

namespace QueryGate.Regex

open QueryGate.Text

/-- The operations that combine two lists inside brackets. -/
inductive SetOperation where
  /-- Members of both lists. -/
  | intersection
  /-- Members of the first list only. -/
  | difference
  /-- Members of one list only. -/
  | symmetricDifference
  deriving DecidableEq, Repr

/-- Combines two sets. Where case does not matter, it does not matter in either of them. -/
def SetOperation.apply (operation : SetOperation) (s t : SetExpr) : SetExpr :=
  match operation with
  | .intersection => .intersection (.folded s) (.folded t)
  | .difference => .difference (.folded s) (.folded t)
  | .symmetricDifference => .symmetricDifference (.folded s) (.folded t)

/-- A set and how deep it nests. -/
structure NestedSet where
  /-- The set. -/
  set : SetExpr
  /-- The levels of nesting. -/
  depth : Nat
  deriving DecidableEq, Repr

/-- The members listed so far. -/
structure Members where
  /-- Their union. -/
  set : SetExpr
  /-- How many items were listed. -/
  count : Nat
  /-- The greatest depth among them. -/
  depth : Nat
  deriving DecidableEq, Repr

/-- The empty list of members. -/
def Members.none : Members :=
  ⟨.basic .nothing, 0, 0⟩

/-- Lists one more item. -/
def Members.add (members : Members) (item : NestedSet) : Members :=
  ⟨.union members.set item.set, members.count + 1, max members.depth item.depth⟩

/-- The list as one set: two items or more nest one level deeper than they do alone. -/
def Members.toNested (members : Members) : NestedSet :=
  ⟨members.set, if 2 ≤ members.count then members.depth + 1 else members.depth⟩

/-- What waits on the stack for the list being read to end. -/
inductive Waiting where
  /-- An open bracket, negated or not, and the members listed before it. -/
  | bracket (negated : Bool) (before : Members)
  /-- An operation and its left operand. -/
  | operation (operation : SetOperation) (left : NestedSet)
  deriving DecidableEq, Repr

/-- The set of a finished bracket. -/
def bracketed (negated : Bool) (inner : NestedSet) : NestedSet :=
  ⟨(SetExpr.folded inner.set).negatedIf negated, inner.depth + 1⟩

/-- Ends a list: applies the operation that waits for it, if there is one. -/
def endList (members : Members) (stack : List Waiting) : NestedSet × List Waiting :=
  let right := members.toNested
  match stack with
  | .operation operation left :: rest =>
    (⟨operation.apply left.set right.set, max left.depth right.depth + 1⟩, rest)
  | _ => (right, stack)

/-- What the text of a bracketed set consists of. -/
inductive SetToken where
  /-- An opening bracket, negated or not, and the literal members directly behind it. -/
  | openBracket (negated : Bool) (members : Members)
  /-- A closing bracket. -/
  | close
  /-- An operation sign. -/
  | operation (operation : SetOperation)
  /-- A character, a range or a named class. -/
  | item (set : SetExpr)
  deriving DecidableEq, Repr

/-- Splits off the `^` that negates a set. -/
def splitCaret (cs : List Char) : Bool × List Char :=
  match cs with
  | '^' :: rest => (true, rest)
  | _ => (false, cs)

/-- Splitting a `^` off leaves an end of the text. -/
theorem splitCaret_suffix (cs : List Char) : (splitCaret cs).2 <:+ cs := by
  unfold splitCaret
  split
  · exact List.suffix_cons _ _
  · exact List.suffix_refl _

/-- The members that are written as themselves. -/
def Members.ofLiterals (cs : List Char) : Members :=
  cs.foldl (fun members c => members.add ⟨.basic (.only c), 0⟩) Members.none

/-- Reads what directly follows an opening bracket: a `^` that negates the set, and then either
any number of literal `-` or one literal `]`. -/
def readOpening (verbose : Bool) (cs : List Char) : SetToken × List Char :=
  let (negated, cs) := splitCaret (skip verbose cs)
  match readRun verbose (· == '-') cs with
  | ([], ']' :: rest) => (.openBracket negated (.ofLiterals [']']), rest)
  | (dashes, rest) => (.openBracket negated (.ofLiterals dashes), rest)

/-- Reading what follows a bracket leaves an end of the text. -/
theorem readOpening_suffix (verbose : Bool) (cs : List Char) :
    (readOpening verbose cs).2 <:+ cs := by
  have hcaret := (splitCaret_suffix (skip verbose cs)).trans (skip_suffix verbose cs)
  have hrun := readRun_suffix verbose (· == '-') (splitCaret (skip verbose cs)).2
  unfold readOpening
  dsimp only
  split
  · next rest hdashes =>
    rw [hdashes] at hrun
    exact ((List.suffix_cons _ rest).trans hrun).trans hcaret
  · next dashes rest _ hdashes =>
    rw [hdashes] at hrun
    exact hrun.trans hcaret

/-- The class with a name, if there is one. -/
def namedClass? (negated : Bool) (name : List Char) : Option SetExpr :=
  (CharSet.ofName? (String.ofList name)).map fun set =>
    (SetExpr.folded (.basic set)).negatedIf negated

/-- Reads a class named between `[:` and `:]`, of which the bracket is already taken. -/
def readClassName (cs : List Char) : Option (SetExpr × List Char) :=
  match cs with
  | ':' :: rest =>
    match cutAt? ':' (splitCaret rest).2 with
    | some (name, ']' :: after) => (namedClass? (splitCaret rest).1 name).map (·, after)
    | _ => none
  | _ => none

/-- The text before and after a separator makes up the whole. -/
theorem cutAt?_suffix {sep : Char} {cs before after : List Char}
    (h : cutAt? sep cs = some (before, after)) : after <:+ cs := by
  unfold cutAt? at h
  split at h
  · cases h
  · next first rest hdrop =>
    cases h
    exact (List.suffix_cons first _).trans (hdrop ▸ List.dropWhile_suffix _)

/-- Reading a class name leaves an end of the text. -/
theorem readClassName_suffix {cs rest : List Char} {set : SetExpr}
    (h : readClassName cs = some (set, rest)) : rest <:+ cs := by
  unfold readClassName at h
  split at h
  · next after =>
    split at h
    · next name rest' hcut =>
      obtain ⟨set, -, heq⟩ := Option.map_eq_some_iff.mp h
      cases heq
      have hafter := (cutAt?_suffix hcut).trans (splitCaret_suffix after)
      exact ((List.suffix_cons _ _).trans hafter).trans (List.suffix_cons _ _)
    · cases h
  · cases h

/-- Reads one end of a range, or a whole item: a character or an escape. -/
def readSetEscape (verbose : Bool) (c : Char) (cs : List Char) : Option (Escape × List Char) :=
  if c == '\\' then readEscape verbose cs else some (.literal c, cs)

/-- Reading one end of a range leaves an end of the text. -/
theorem readSetEscape_suffix {verbose : Bool} {c : Char} {cs rest : List Char} {escape : Escape}
    (h : readSetEscape verbose c cs = some (escape, rest)) : rest <:+ cs := by
  unfold readSetEscape at h
  split at h
  · cases cs with
    | nil => cases h
    | cons d cs => exact (readEscape_suffix h).trans (List.suffix_cons d cs)
  · cases h
    exact List.suffix_refl _

/-- The set of a single item; an assertion is none. -/
def Escape.toSet? : Escape → Option SetExpr
  | .literal c => some (.basic (.only c))
  | .byte c => some (.basic (.only c))
  | .shorthand kind negated => some ((SetExpr.shorthand kind).negatedIf negated)
  | .property name negated => some ((SetExpr.folded (.property name)).negatedIf negated)
  | .assertion _ => none
  | .word _ => none

/-- The character that an end of a range stands for. -/
def Escape.char? : Escape → Option Char
  | .literal c => some c
  | .byte c => some c
  | _ => none

/-- The characters between the ends of a range, which have to be in order. -/
def range? (first last : Escape) : Option SetExpr := do
  let lo ← first.char?
  let hi ← last.char?
  if lo ≤ hi then some (.basic (.between lo hi)) else none

/-- Reads the upper end of a range; both ends have to be characters, in order. -/
def readRangeEnd (verbose : Bool) (first : Escape) (cs : List Char) :
    Option (SetExpr × List Char) :=
  match skip verbose cs with
  | [] => none
  | c :: rest =>
    (readSetEscape verbose c rest).bind fun (last, rest) => (range? first last).map (·, rest)

/-- Reading the upper end of a range leaves an end of the text. -/
theorem readRangeEnd_suffix {verbose : Bool} {first : Escape} {cs rest : List Char}
    {set : SetExpr} (h : readRangeEnd verbose first cs = some (set, rest)) : rest <:+ cs := by
  unfold readRangeEnd at h
  split at h
  · cases h
  · next c after hskip =>
    obtain ⟨⟨last, rest'⟩, hread, h⟩ := Option.bind_eq_some_iff.mp h
    obtain ⟨set', -, heq⟩ := Option.map_eq_some_iff.mp h
    cases heq
    exact (readSetEscape_suffix hread).trans
      ((List.suffix_cons c after).trans (hskip ▸ skip_suffix verbose cs))

/-- Reads what follows the first character of an item. A `-` makes a range of it unless a `]` or
another `-` comes next. -/
def readItemEnd (verbose : Bool) (first : Escape) (cs : List Char) :
    Option (SetExpr × List Char) :=
  let alone := first.toSet?.map (·, cs)
  match skip verbose cs with
  | '-' :: after =>
    if (peekPast verbose after).any fun d => d == ']' || d == '-' then alone
    else readRangeEnd verbose first after
  | _ => alone

/-- What follows the first character of an item leaves an end of the text. -/
theorem readItemEnd_suffix {verbose : Bool} {first : Escape} {cs rest : List Char} {set : SetExpr}
    (h : readItemEnd verbose first cs = some (set, rest)) : rest <:+ cs := by
  have halone {set' : SetExpr} {rest' : List Char}
      (h : first.toSet?.map (·, cs) = some (set', rest')) : rest' <:+ cs := by
    obtain ⟨_, -, heq⟩ := Option.map_eq_some_iff.mp h
    cases heq
    exact List.suffix_refl _
  unfold readItemEnd at h
  dsimp only at h
  split at h
  · next after hskip =>
    split at h
    · exact halone h
    · exact (readRangeEnd_suffix h).trans
        ((List.suffix_cons _ after).trans (hskip ▸ skip_suffix verbose cs))
  · exact halone h

/-- Reads an item that starts with `c`. -/
def readItem (verbose : Bool) (c : Char) (cs : List Char) : Option (SetExpr × List Char) :=
  (readSetEscape verbose c cs).bind fun (first, rest) => readItemEnd verbose first rest

/-- Reading an item leaves an end of the text. -/
theorem readItem_suffix {verbose : Bool} {c : Char} {cs rest : List Char} {set : SetExpr}
    (h : readItem verbose c cs = some (set, rest)) : rest <:+ cs := by
  obtain ⟨⟨first, after⟩, hfirst, hend⟩ := Option.bind_eq_some_iff.mp h
  exact (readItemEnd_suffix hend).trans (readSetEscape_suffix hfirst)

/-- The operation that a sign stands for when it is doubled. -/
def operationOf? (c : Char) : Option SetOperation :=
  match c with
  | '&' => some .intersection
  | '-' => some .difference
  | '~' => some .symmetricDifference
  | _ => none

/-- Reads a token of a bracketed set that starts with `c` and is no bracket. -/
def readListed (verbose : Bool) (c : Char) (cs : List Char) : Option (SetToken × List Char) :=
  let item := (readItem verbose c cs).map fun (set, rest) => (SetToken.item set, rest)
  match operationOf? c, cs with
  | some operation, d :: rest => if d == c then some (.operation operation, rest) else item
  | _, _ => item

/-- A token of a bracketed set that is no bracket leaves an end of the text. -/
theorem readListed_suffix {verbose : Bool} {c : Char} {cs rest : List Char} {token : SetToken}
    (h : readListed verbose c cs = some (token, rest)) : rest <:+ cs := by
  have hitem {cs : List Char}
      (h : ((readItem verbose c cs).map fun (set, rest) => (SetToken.item set, rest)) =
        some (token, rest)) : rest <:+ cs := by
    obtain ⟨⟨set, after⟩, hread, heq⟩ := Option.map_eq_some_iff.mp h
    cases heq
    exact readItem_suffix hread
  unfold readListed at h
  dsimp only at h
  split at h
  · split at h
    · cases h
      exact List.suffix_cons _ _
    · exact hitem h
  · exact hitem h

/-- Reads a token of a bracketed set that starts with `c`. -/
def readSetToken (verbose : Bool) (c : Char) (cs : List Char) : Option (SetToken × List Char) :=
  match c with
  | '[' =>
    match readClassName cs with
    | some (set, rest) => some (.item set, rest)
    | none => some (readOpening verbose cs)
  | ']' => some (.close, cs)
  | c => readListed verbose c cs

/-- Reading a token of a set leaves an end of the text. -/
theorem readSetToken_suffix {verbose : Bool} {c : Char} {cs rest : List Char} {token : SetToken}
    (h : readSetToken verbose c cs = some (token, rest)) : rest <:+ cs := by
  unfold readSetToken at h
  split at h
  · split at h
    · next set rest' hclass =>
      cases h
      exact readClassName_suffix hclass
    · have hopening := readOpening_suffix verbose cs
      rwa [Option.some.inj h] at hopening
  · cases h
    exact List.suffix_refl _
  · exact readListed_suffix h

/-- How the reading of a bracketed set goes on behind a token. -/
inductive AfterSetToken where
  /-- More members follow. -/
  | more (members : Members) (stack : List Waiting)
  /-- The set is finished. -/
  | done (set : NestedSet)
  /-- The token may not stand here. -/
  | refused

/-- Goes on behind a token: `members` are listed so far, and `stack` waits for them. -/
def afterSetToken (members : Members) (stack : List Waiting) (token : SetToken) : AfterSetToken :=
  match token with
  | .item set => .more (members.add ⟨set, 0⟩) stack
  | .openBracket negated inner => .more inner (.bracket negated members :: stack)
  | .operation operation =>
    let (left, stack) := endList members stack
    .more .none (.operation operation left :: stack)
  | .close =>
    match endList members stack with
    | (inner, .bracket negated before :: []) =>
      if before.count = 0 then .done (bracketed negated inner) else .refused
    | (inner, .bracket negated before :: stack) =>
      .more (before.add (bracketed negated inner)) stack
    | _ => .refused

/-- Reads a bracketed set to its end: the set, and the text that is left. -/
def readMembers (verbose : Bool) (members : Members) (stack : List Waiting) (cs : List Char) :
    Option (NestedSet × List Char) :=
  match _hskip : skip verbose cs with
  | [] => none
  | c :: after =>
    match _htoken : readSetToken verbose c after with
    | none => none
    | some (token, rest) =>
      match afterSetToken members stack token with
      | .more members stack => readMembers verbose members stack rest
      | .done set => some (set, rest)
      | .refused => none
termination_by cs.length
decreasing_by
  have hlt := length_lt_of_skip _hskip
  have hle := (readSetToken_suffix _htoken).length_le
  omega

/-- A bracketed set is read token by token. -/
theorem readMembers_eq (verbose : Bool) (members : Members) (stack : List Waiting)
    (cs : List Char) :
    readMembers verbose members stack cs =
      match skip verbose cs with
      | [] => none
      | c :: after => (readSetToken verbose c after).bind fun (token, rest) =>
        match afterSetToken members stack token with
        | .more members stack => readMembers verbose members stack rest
        | .done set => some (set, rest)
        | .refused => none := by
  rw [readMembers.eq_def]
  split
  · next h => rw [h]
  · next c after h =>
    rw [h]
    dsimp only
    split
    · next htoken => rw [htoken]; rfl
    · next htoken => rw [htoken]; rfl

/-- Reading a bracketed set leaves an end of the text. -/
theorem readMembers_suffix {verbose : Bool} {members : Members} {stack : List Waiting}
    {cs rest : List Char} {set : NestedSet}
    (h : readMembers verbose members stack cs = some (set, rest)) : rest <:+ cs := by
  induction hlength : cs.length using Nat.strongRecOn generalizing members stack cs with
  | ind length ih =>
    rw [readMembers_eq] at h
    split at h
    · cases h
    · next c after hskip =>
      obtain ⟨⟨token, left⟩, htoken, h⟩ := Option.bind_eq_some_iff.mp h
      have hshorter := length_lt_of_skip hskip
      have hleft := readSetToken_suffix htoken
      have hle := hleft.length_le
      have hafter := (List.suffix_cons c after).trans (hskip ▸ skip_suffix verbose cs)
      dsimp only at h
      split at h
      · exact ((ih left.length (by omega) h rfl).trans hleft).trans hafter
      · cases h
        exact hleft.trans hafter
      · cases h

/-- Reads a bracketed set behind its opening. -/
def readBehindOpening (verbose : Bool) (opening : SetToken) (cs : List Char) :
    Option (NestedSet × List Char) :=
  match opening with
  | .openBracket negated members => readMembers verbose members [.bracket negated .none] cs
  | _ => none

/-- Reads a bracketed set, of which the opening bracket is already taken. -/
def readBracket (verbose : Bool) (cs : List Char) : Option (NestedSet × List Char) :=
  let (opening, rest) := readOpening verbose cs
  readBehindOpening verbose opening rest

/-- Behind a bracketed set an end of the text is left. -/
theorem readBracket_suffix {verbose : Bool} {cs rest : List Char} {set : NestedSet}
    (h : readBracket verbose cs = some (set, rest)) : rest <:+ cs := by
  have hopening := readOpening_suffix verbose cs
  unfold readBracket readBehindOpening at h
  dsimp only at h
  split at h
  · exact (readMembers_suffix h).trans hopening
  · cases h

end QueryGate.Regex
