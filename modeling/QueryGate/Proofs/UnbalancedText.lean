import QueryGate.Proofs.Brackets
import QueryGate.Proofs.RuleText

/-!
# Where unbalanced brackets are reported

Brackets are counted once over the whole text and again over every piece that it is cut into. Only
the first count can fail: what is cut out of balanced text outside all brackets is balanced, also
after its blanks have been trimmed, so that every later search finds what it has to.
-/

namespace QueryGate

open QueryGate.Text

/-- A step fails because a bracket has no partner. -/
def ReportsUnbalanced {α : Type} (result : Except Error α) : Prop :=
  ∃ group offset, result = .error (.parse group (.unbalanced offset))

section Steps

variable {α β : Type}

/-- A success reports nothing. -/
theorem not_reportsUnbalanced_ok (a : α) : ¬ReportsUnbalanced (.ok a) := by
  rintro ⟨_, _, h⟩
  cases h

/-- An error of another kind reports nothing. -/
theorem not_reportsUnbalanced_error {error : Error}
    (h : ∀ group offset, error ≠ .parse group (.unbalanced offset)) :
    ¬ReportsUnbalanced (.error error : Except Error α) := by
  rintro ⟨group, offset, herror⟩
  exact h group offset (Except.error.inj herror)

/-- Behind a step that succeeds, only the next one can report brackets. -/
theorem not_reportsUnbalanced_bind_ok {first : Except Error α} {next : α → Except Error β} {a : α}
    (hfirst : first = .ok a) (hnext : ¬ReportsUnbalanced (next a)) :
    ¬ReportsUnbalanced (first >>= next) := by
  rw [hfirst]
  exact hnext

/-- If neither of two steps reports brackets, both together do not. -/
theorem not_reportsUnbalanced_bind {first : Except Error α} {next : α → Except Error β}
    (hfirst : ¬ReportsUnbalanced first)
    (hnext : ∀ a, first = .ok a → ¬ReportsUnbalanced (next a)) :
    ¬ReportsUnbalanced (first >>= next) := by
  cases first with
  | error error =>
    rintro ⟨group, offset, h⟩
    cases h
    exact hfirst ⟨group, offset, rfl⟩
  | ok a => exact hnext a rfl

/-- Steps that are taken for every item report no brackets if none of them does. -/
theorem not_reportsUnbalanced_mapM {f : α → Except Error β} {xs : List α}
    (h : ∀ x ∈ xs, ¬ReportsUnbalanced (f x)) : ¬ReportsUnbalanced (xs.mapM f) := by
  induction xs with
  | nil => exact not_reportsUnbalanced_ok []
  | cons x xs ih =>
    rw [List.forall_mem_cons] at h
    rw [List.mapM_cons]
    refine not_reportsUnbalanced_bind h.1 fun y _ => ?_
    exact not_reportsUnbalanced_bind (ih h.2) fun ys _ => not_reportsUnbalanced_ok _

/-- A run over a list reports no brackets if none of its steps does. -/
theorem not_reportsUnbalanced_foldlM {step : β → α → Except Error β} {xs : List α}
    (h : ∀ x ∈ xs, ∀ b, ¬ReportsUnbalanced (step b x)) (b : β) :
    ¬ReportsUnbalanced (xs.foldlM step b) := by
  induction xs generalizing b with
  | nil => exact not_reportsUnbalanced_ok b
  | cons x xs ih =>
    rw [List.forall_mem_cons] at h
    rw [List.foldlM_cons]
    exact not_reportsUnbalanced_bind (h.1 b) fun b' _ => ih h.2 b'

end Steps

/-! ## Reading pieces of balanced text -/

section Pieces

variable {plugins : List Plugin}

/-- Plugins report no brackets. -/
theorem Constraint.not_reportsUnbalanced_ofPlugins (plugins : List Plugin) (name body : String) :
    ¬ReportsUnbalanced (Constraint.ofPlugins plugins name body) := by
  induction plugins with
  | nil => exact not_reportsUnbalanced_ok none
  | cons first rest ih =>
    rw [Constraint.ofPlugins]
    split
    · exact not_reportsUnbalanced_ok _
    · exact ih
    · exact not_reportsUnbalanced_error nofun

/-- Reading a constraint reports no brackets. -/
theorem Constraint.not_reportsUnbalanced_parse (group : Nat) (name : String) (body : List Char) :
    ¬ReportsUnbalanced (Constraint.parse plugins group name body) := by
  unfold Constraint.parse
  split
  · exact not_reportsUnbalanced_ok _
  split
  · exact not_reportsUnbalanced_ok _
  split
  · exact not_reportsUnbalanced_ok _
  split
  · split
    · exact not_reportsUnbalanced_error nofun
    · split
      · exact not_reportsUnbalanced_error nofun
      · exact not_reportsUnbalanced_ok _
  · split
    · next error hplugins =>
      rintro ⟨number, offset, h⟩
      cases h
      exact not_reportsUnbalanced_ofPlugins plugins name _ ⟨number, offset, hplugins⟩
    · exact not_reportsUnbalanced_ok _
    · dsimp only
      split
      · exact not_reportsUnbalanced_error nofun
      · exact not_reportsUnbalanced_ok _

/-- Reading a rule from balanced text reports no brackets: behind its `=` stands balanced text, so
that the bracket with which that text starts is closed. -/
theorem Rule.not_reportsUnbalanced_parse {spec : List Char} (h : Brackets.Balanced spec)
    (group : Nat) : ¬ReportsUnbalanced (Rule.parse plugins group spec) := by
  obtain ⟨found, hfind, hparts⟩ := Brackets.exists_find '=' h
  unfold Rule.parse
  refine not_reportsUnbalanced_bind_ok (Except.mapError_eq_ok_iff.mpr hfind) ?_
  cases found with
  | none =>
    dsimp only
    split
    · exact not_reportsUnbalanced_error nofun
    · exact not_reportsUnbalanced_ok _
  | some parts =>
    obtain ⟨before, after⟩ := parts
    dsimp only
    split
    · exact not_reportsUnbalanced_error nofun
    split
    · next rest hafter =>
      have hbracket : Brackets.Balanced ('[' :: rest) := hafter ▸ (hparts _ rfl).2.trim
      obtain ⟨⟨body, trailing⟩, hclose⟩ := Brackets.exists_close hbracket
      refine not_reportsUnbalanced_bind_ok (Except.mapError_eq_ok_iff.mpr hclose) ?_
      dsimp only
      split
      · exact not_reportsUnbalanced_error nofun
      · exact not_reportsUnbalanced_bind (Constraint.not_reportsUnbalanced_parse group _ _)
          fun _ _ => not_reportsUnbalanced_ok _
    · exact not_reportsUnbalanced_error nofun

/-- Reading a list of rules from balanced text reports no brackets. -/
theorem Rule.not_reportsUnbalanced_parseList {params : List Char} (h : Brackets.Balanced params)
    (group : Nat) : ¬ReportsUnbalanced (Rule.parseList plugins group params) := by
  obtain ⟨specs, hsplit⟩ := (Brackets.exists_split_iff (· == '&')).mpr h
  unfold Rule.parseList
  refine not_reportsUnbalanced_bind_ok (Except.mapError_eq_ok_iff.mpr hsplit) ?_
  refine not_reportsUnbalanced_bind (not_reportsUnbalanced_mapM ?_) fun rules _ => ?_
  · intro spec hspec
    obtain ⟨part, hpart, rfl⟩ := List.mem_map.mp (List.mem_of_mem_filter hspec)
    exact Rule.not_reportsUnbalanced_parse (Brackets.balanced_of_mem_split hsplit part hpart).trim
      group
  · dsimp only
    split
    · exact not_reportsUnbalanced_error nofun
    · exact not_reportsUnbalanced_ok _

namespace Policy

/-- The text behind the `?` of a balanced group is balanced. -/
theorem balanced_of_splitGroup {group head params : List Char} (h : Brackets.Balanced group)
    {number : Nat} (hsplit : splitGroup number group = .ok (some (head, params))) :
    Brackets.Balanced params := by
  rcases splitGroup_eq_ok_iff.mp hsplit with ⟨_, hnone⟩ | ⟨_, _, hfind, _, hparts⟩
  · cases hnone
  · cases hparts
    obtain ⟨found, hfound, hbalanced⟩ := Brackets.exists_find '?' h
    rw [hfind] at hfound
    cases hfound
    exact (hbalanced _ rfl).2

/-- Cutting a balanced group reports no brackets. -/
theorem not_reportsUnbalanced_splitGroup {group : List Char} (h : Brackets.Balanced group)
    (number : Nat) : ¬ReportsUnbalanced (splitGroup number group) := by
  obtain ⟨found, hfind, _⟩ := Brackets.exists_find '?' h
  unfold splitGroup
  refine not_reportsUnbalanced_bind_ok (Except.mapError_eq_ok_iff.mpr hfind) ?_
  cases found with
  | none => exact not_reportsUnbalanced_ok none
  | some cut =>
    obtain ⟨head, params⟩ := cut
    dsimp only
    split
    · exact not_reportsUnbalanced_ok _
    split
    · exact not_reportsUnbalanced_error nofun
    · exact not_reportsUnbalanced_ok _

/-- Adding a balanced group reports no brackets. -/
theorem not_reportsUnbalanced_addGroup {group : List Char} (h : Brackets.Balanced group)
    (number : Nat) (policy : Policy) :
    ¬ReportsUnbalanced (policy.addGroup plugins number group) := by
  unfold addGroup
  split
  · exact not_reportsUnbalanced_ok _
  have hcut := not_reportsUnbalanced_splitGroup h number
  refine not_reportsUnbalanced_bind hcut fun parts hsplit => ?_
  cases parts with
  | none =>
    exact not_reportsUnbalanced_bind (Rule.not_reportsUnbalanced_parseList h number)
      fun _ _ => not_reportsUnbalanced_ok _
  | some parts =>
    have hparams := balanced_of_splitGroup h hsplit
    exact not_reportsUnbalanced_bind (Rule.not_reportsUnbalanced_parseList hparams number)
      fun _ _ => not_reportsUnbalanced_ok _

/-- Reading balanced text reports no brackets. -/
theorem not_reportsUnbalanced_parse {text : String}
    (h : Brackets.Balanced (withoutComments text.toList)) :
    ¬ReportsUnbalanced (Policy.parse plugins text) := by
  obtain ⟨groups, hsplit⟩ := (Brackets.exists_split_iff isGroupEnd).mpr h
  unfold Policy.parse
  refine not_reportsUnbalanced_bind_ok (Except.mapError_eq_ok_iff.mpr hsplit) ?_
  refine not_reportsUnbalanced_foldlM ?_ empty
  rintro ⟨group, number⟩ hgroup policy
  have hmem : group ∈ groups := List.fst_mem_of_mem_zipIdx hgroup
  exact not_reportsUnbalanced_addGroup (Brackets.balanced_of_mem_split hsplit group hmem).trim
    number policy

/-- Reading unbalanced text reports brackets, for no group in particular. -/
theorem parse_of_not_balanced (plugins : List Plugin) {text : String}
    (h : ¬Brackets.Balanced (withoutComments text.toList)) :
    ∃ offset, Policy.parse plugins text = .error (.parse 0 (.unbalanced offset)) := by
  cases hsplit : Brackets.split isGroupEnd (withoutComments text.toList) with
  | ok groups => exact absurd ((Brackets.exists_split_iff isGroupEnd).mp ⟨groups, hsplit⟩) h
  | error offset =>
    refine ⟨offset, ?_⟩
    unfold Policy.parse
    dsimp only
    rw [hsplit]
    rfl

end Policy

end Pieces

/-! ## Only the first count fails -/

namespace Policy

/-- The kinds of pieces whose brackets are counted again. -/
inductive Piece where
  /-- A group, in which the first `?` is looked for. -/
  | group
  /-- A list of rules, which is cut at every `&`. -/
  | params
  /-- A rule, in which the first `=` is looked for. -/
  | spec
  /-- What follows the bracket of a constraint, in which its partner is looked for. -/
  | constraint
  deriving DecidableEq, Repr

/-- A piece of this kind is cut out of a text, whether or not all that precedes it can be read. -/
inductive Piece.CutFrom (text : String) : Piece → List Char → Prop
  /-- Groups are the trimmed parts of the text without its comments. -/
  | group {groups : List (List Char)} {part : List Char}
      (hsplit : Brackets.split isGroupEnd (withoutComments text.toList) = .ok groups)
      (hmem : part ∈ groups) : CutFrom text .group (trim part)
  /-- A group without a pattern is a list of rules. -/
  | everywhere {group : List Char} {number : Nat} (hgroup : CutFrom text .group group)
      (hsplit : splitGroup number group = .ok none) : CutFrom text .params group
  /-- What follows the pattern of a group is a list of rules. -/
  | scope {group head params : List Char} {number : Nat} (hgroup : CutFrom text .group group)
      (hsplit : splitGroup number group = .ok (some (head, params))) : CutFrom text .params params
  /-- Rules are the trimmed parts of a list. -/
  | spec {params part : List Char} {specs : List (List Char)}
      (hparams : CutFrom text .params params)
      (hsplit : Brackets.split (· == '&') params = .ok specs) (hmem : part ∈ specs) :
      CutFrom text .spec (trim part)
  /-- A constraint starts with a bracket behind the `=` of a rule. -/
  | constraint {spec before after rest : List Char} (hspec : CutFrom text .spec spec)
      (hfind : Brackets.find '=' spec = .ok (some (before, after)))
      (hafter : trim after = '[' :: rest) : CutFrom text .constraint rest

/-- A bracket without partner is reported when a piece of this kind is read. -/
def Piece.Reports (plugins : List Plugin) (number : Nat) (cs : List Char) : Piece → Prop
  | .group => ReportsUnbalanced (splitGroup number cs)
  | .params => ReportsUnbalanced (Rule.parseList plugins number cs)
  | .spec => ReportsUnbalanced (Rule.parse plugins number cs)
  | .constraint =>
    ReportsUnbalanced ((Brackets.close cs).mapError (Error.unbalanced number))

/-- A piece with the bracket that was taken off it. -/
def Piece.whole (cs : List Char) : Piece → List Char
  | .group => cs
  | .params => cs
  | .spec => cs
  | .constraint => '[' :: cs

/-- What is cut out of a text is balanced, a constraint together with its bracket. -/
theorem Piece.CutFrom.balanced {text : String} {piece : Piece} {cs : List Char}
    (h : piece.CutFrom text cs) : Brackets.Balanced (piece.whole cs) := by
  induction h with
  | group hsplit hmem => exact (Brackets.balanced_of_mem_split hsplit _ hmem).trim
  | everywhere hgroup hsplit ih => exact ih
  | scope hgroup hsplit ih => exact balanced_of_splitGroup ih hsplit
  | spec hparams hsplit hmem ih => exact (Brackets.balanced_of_mem_split hsplit _ hmem).trim
  | constraint hspec hfind hafter ih =>
    obtain ⟨found, hfound, hparts⟩ := Brackets.exists_find '=' ih
    dsimp only [whole] at hfound
    rw [hfind] at hfound
    cases hfound
    have htrimmed := (hparts _ rfl).2.trim
    rw [hafter] at htrimmed
    exact htrimmed

/-- Reading fails because of brackets exactly if one count over the bytes of the text without its
comments finds a bracket without partner. Then group zero is named, and no piece that is cut out of
a text ever has brackets without partners. -/
theorem unbalanced_reported_once (plugins : List Plugin) (text : String) :
    (ReportsUnbalanced (Policy.parse plugins text) ↔
      ¬Brackets.BytesBalanced (bytes (String.ofList (withoutComments text.toList)))) ∧
    (∀ group offset, Policy.parse plugins text = .error (.parse group (.unbalanced offset)) →
      group = 0) ∧
    ∀ (piece : Piece) (cs : List Char) (number : Nat), piece.CutFrom text cs →
      ¬piece.Reports plugins number cs := by
  have hbytes : Brackets.BytesBalanced (bytes (String.ofList (withoutComments text.toList))) ↔
      Brackets.Balanced (withoutComments text.toList) := by
    rw [bytes_ofList, Brackets.bytesBalanced_encode_iff]
  rw [hbytes]
  refine ⟨⟨fun hreports hbalanced => not_reportsUnbalanced_parse hbalanced hreports, ?_⟩, ?_, ?_⟩
  · intro hunbalanced
    obtain ⟨offset, hparse⟩ := parse_of_not_balanced plugins hunbalanced
    exact ⟨0, offset, hparse⟩
  · intro group offset hparse
    by_cases hbalanced : Brackets.Balanced (withoutComments text.toList)
    · exact absurd ⟨group, offset, hparse⟩ (not_reportsUnbalanced_parse hbalanced)
    · obtain ⟨_, hzero⟩ := parse_of_not_balanced plugins hbalanced
      rw [hzero] at hparse
      cases hparse
      rfl
  · intro piece cs number hcut
    have hbalanced := hcut.balanced
    cases piece with
    | group => exact not_reportsUnbalanced_splitGroup hbalanced number
    | params => exact Rule.not_reportsUnbalanced_parseList hbalanced number
    | spec => exact Rule.not_reportsUnbalanced_parse hbalanced number
    | constraint =>
      obtain ⟨parts, hclose⟩ := Brackets.exists_close hbalanced
      change ¬ReportsUnbalanced ((Brackets.close cs).mapError (Error.unbalanced number))
      rw [hclose]
      exact not_reportsUnbalanced_ok parts

end Policy

end QueryGate
