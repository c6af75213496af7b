import QueryGate.Proofs.OffsetValues
import QueryGate.Proofs.RuleText

/-!
# Reading rule text by offsets

The reader of rule text, with every part of the text taken out by byte offsets: at delimiters, at
the `?` of a group and the `/` in front of it, at the `=` of a rule, and at the bracket that closes
a constraint. It reads what is read from the characters of the text, so none of its steps breaks
off.
-/

namespace QueryGate.Offsets

open QueryGate.Text

/-! ## The reader -/

/-- A text without the blanks around it. -/
def trimmed (text : String) : String :=
  String.ofList (trim text.toList)

/-- Reads the trimmed text between the brackets of a constraint. -/
def parseConstraint (plugins : List Plugin) (group : Nat) (name body : String) :
    Checked Error Constraint :=
  if body.toList.isEmpty then .ok .keyOnly
  else if body.toList = ['*'] then .ok .any
  else if body.toList = "callback".toList then .ok .callback
  else if hasBoundsShape body.toList then
    match bounds? body.toList with
    | none => .error (.error (.parse group (.boundsOutOfRange body)))
    | some (min, max) =>
      if max < min then .error (.error (.parse group (.boundsReversed name min max)))
      else .ok (.range min max)
  else
    match Constraint.ofPlugins plugins name body with
    | .error error => .error (.error error)
    | .ok (some constraint) => .ok constraint
    | .ok none => do
      let parts ← unescapedParts (ascii ',') body
      let values := (parts.map trimmed).filter fun value => !value.toList.isEmpty
      if values.isEmpty then .error (.error (.parse group (.emptyValues name)))
      else .ok (.oneOf values)

/-- Reads what stands behind the `=` of a parameter, without the blanks around it. -/
def parseConstrained (plugins : List Plugin) (group : Nat) (spec : String) (name : List Char)
    (inverted : Bool) (rest : String) : Checked Error Rule :=
  if name.isEmpty then .error (.error (.parse group (.emptyName spec)))
  else if rest.toList.head? = some '[' then do
    let closing ← (close rest).mapError (Stop.reword (Error.unbalanced group))
    if closing + 1 = rest.utf8ByteSize then do
      let body ← part rest 1 closing
      let name := String.ofList name
      return { name, constraint := ← parseConstraint plugins group name (trimmed body), inverted }
    else do
      let trailing ← part rest (closing + 1) rest.utf8ByteSize
      .error (.error (.parse group (.trailingText trailing)))
  else .error (.error (.parse group (.bracketExpected spec)))

/-- Reads one parameter. -/
def parseRule (plugins : List Plugin) (group : Nat) (spec : String) : Checked Error Rule := do
  match ← (find (ascii '=') spec).mapError (Stop.reword (Error.unbalanced group)) with
  | none =>
    if spec.toList.contains '[' || spec.toList.contains ']' then
      .error (.error (.parse group (.constraintWithoutEquals spec)))
    else .ok { name := spec, constraint := .any }
  | some equals =>
    let before ← part spec 0 equals
    let after ← part spec (equals + 1) spec.utf8ByteSize
    let (name, inverted) := splitInversion (trim before.toList)
    parseConstrained plugins group spec name inverted (trimmed after)

/-- Reads the parameters of a group. -/
def parseList (plugins : List Plugin) (group : Nat) (params : String) :
    Checked Error (List Rule) := do
  let specs ← (split [ascii '&'] params).mapError (Stop.reword (Error.unbalanced group))
  let specs := (specs.map trimmed).filter fun spec => !spec.toList.isEmpty
  let rules ← specs.mapM (parseRule plugins group)
  if 1 < rules.length && rules.any Rule.isAcceptAll then
    throw (.error (.parse group (.acceptAllNotAlone params)))
  return rules

/-- Whether a text has a `/` with no `=` before it. -/
def slashFirst (head : String) : Checked Error Bool :=
  match (bytes head).idxOf? (ascii '/') with
  | none => return false
  | some slash => do
    let before ← part head 0 slash
    return !before.toList.contains '='

/-- Cuts a group into the pattern it is meant for and its parameters, if it is not meant for every
path. -/
def splitGroup (number : Nat) (group : String) : Checked Error (Option (String × String)) := do
  match ← (find (ascii '?') group).mapError (Stop.reword (Error.unbalanced number)) with
  | none => return none
  | some question =>
    let head ← part group 0 question
    let params ← part group (question + 1) group.utf8ByteSize
    let rooted := group.toList.head? == some '/' || group.toList.head? == some '*'
    let barePath := (← slashFirst head) && group.toList.contains '['
    if rooted || barePath then return some (head, params)
    if (trim head.toList).isEmpty then throw (.error (.parse number .emptyPattern))
    return none

/-- Adds the rules of a group. -/
def addGroup (plugins : List Plugin) (policy : Policy) (number : Nat) (group : String) :
    Checked Error Policy := do
  if group.toList.isEmpty then return policy
  match ← splitGroup number group with
  | some (pattern, params) =>
    let rules ← parseList plugins number params
    return policy.declareScope (String.ofList (Pattern.normalize pattern.toList)) rules
  | none =>
    let rules ← parseList plugins number group
    return rules.foldl Policy.declare policy

/-- Reads rule text. -/
def parse (plugins : List Plugin) (text : String) : Checked Error Policy := do
  let visible := String.ofList (Policy.withoutComments text.toList)
  let groups ← (split [ascii ';', ascii '\n'] visible).mapError
    (Stop.reword (Error.unbalanced 0))
  (groups.zipIdx 1).foldlM
    (fun policy (group, number) => addGroup plugins policy number (trimmed group)) .empty

/-! ## What it reads -/

variable {plugins : List Plugin} {group : Nat}

/-- A text is trimmed as its characters are. -/
theorem toList_trimmed (cs : List Char) : (trimmed (String.ofList cs)).toList = trim cs := by
  rw [trimmed, String.toList_ofList, String.toList_ofList]

/-- Parts are trimmed and left out if they are blank, as texts or as characters. -/
theorem filter_trimmed (parts : List (List Char)) :
    ((parts.map String.ofList).map trimmed).filter (fun text => !text.toList.isEmpty) =
      ((parts.map trim).filter fun cs => !cs.isEmpty).map String.ofList := by
  have htrimmed : (parts.map String.ofList).map trimmed = (parts.map trim).map String.ofList := by
    rw [List.map_map, List.map_map]
    refine List.map_congr_left fun cs _ => ?_
    exact String.toList_inj.mp ((toList_trimmed cs).trans String.toList_ofList.symm)
  rw [htrimmed, List.filter_map]
  simp only [Function.comp_def, String.toList_ofList]

/-- A constraint is read from bytes as from characters. -/
theorem parseConstraint_eq (name body : String) : parseConstraint plugins group name body =
    faultless (Constraint.parse plugins group name body.toList) := by
  have hvalues : (((Brackets.unescapedParts ',' body.toList).map String.ofList).map trimmed).filter
      (fun value => !value.toList.isEmpty) = valueList body.toList := filter_trimmed _
  unfold parseConstraint Constraint.parse
  rw [unescapedParts_eq (by decide), String.ofList_toList]
  split
  · rfl
  split
  · rfl
  split
  · rfl
  split
  · rcases bounds? body.toList with _ | ⟨min, max⟩
    · rfl
    · dsimp only
      split <;> rfl
  · rcases Constraint.ofPlugins plugins name body with error | _ | constraint
    · rfl
    · change (if (List.filter _ _).isEmpty = true then _ else _) = _
      rw [hvalues]
      dsimp only
      split <;> rfl
    · rfl

/-- What becomes of the characters behind the `=` of a rule. -/
def constrained (plugins : List Plugin) (group : Nat) (spec name : List Char) (inverted : Bool)
    (rest : List Char) : Except Error Rule :=
  if name.isEmpty then .error (.parse group (.emptyName (String.ofList spec)))
  else if rest.head? = some '[' then do
    let (body, trailing) ← (Brackets.close rest.tail).mapError (Error.unbalanced group)
    if trailing.isEmpty then do
      let name := String.ofList name
      return { name, constraint := ← Constraint.parse plugins group name (trim body), inverted }
    else .error (.parse group (.trailingText (String.ofList trailing)))
  else .error (.parse group (.bracketExpected (String.ofList spec)))

/-- A rule with an `=` is read from the characters on either side of it. -/
theorem parse_of_find {spec before after : List Char}
    (hfind : Brackets.find '=' spec = .ok (some (before, after))) :
    Rule.parse plugins group spec = constrained plugins group spec
      (splitInversion (trim before)).1 (splitInversion (trim before)).2 (trim after) := by
  unfold Rule.parse constrained
  rw [hfind]
  dsimp only [Except.mapError, bind, Except.bind]
  split
  · rfl
  split
  · next rest hrest =>
    rw [hrest, if_pos (List.head?_cons ..), List.tail_cons]
    rcases Brackets.close rest with offset | ⟨body, trailing⟩
    · rfl
    · cases trailing <;> rfl
  · next hother =>
    have hhead : ¬(trim after).head? = some '[' := fun h =>
      have ⟨rest, hrest⟩ := List.head?_eq_some_iff.mp h
      hother rest hrest
    rw [if_neg hhead]
    rfl

/-- What a bracket and its partner enclose and what follows them are parts of a text, and nothing
follows exactly if the partner is the last byte. -/
theorem parts_of_close {text : String} {inner body trailing : List Char}
    (htext : text.toList = '[' :: inner) (hclose : Brackets.close inner = .ok (body, trailing)) :
    (part text 1 (1 + byteLength body) : Checked Error String) = .ok (String.ofList body) ∧
      (part text (1 + byteLength body + 1) text.utf8ByteSize : Checked Error String) =
        .ok (String.ofList trailing) ∧
      (1 + byteLength body + 1 = text.utf8ByteSize ↔ trailing = []) := by
  have hinner : text.toList = ['['] ++ (body ++ ']' :: trailing) := by
    rw [htext, Brackets.append_of_close hclose, List.singleton_append]
  have hwhole : text.toList = ('[' :: body) ++ ']' :: trailing := hinner
  have hsize : text.utf8ByteSize = 1 + byteLength body + 1 + byteLength trailing := by
    rw [← byteLength_toList, hwhole, byteLength_append, Nat.add_assoc]
    rfl
  refine ⟨part_eq hinner, part_behind rfl hwhole, ?_⟩
  cases trailing with
  | nil =>
    rw [hsize]
    exact iff_of_true (Nat.add_zero _).symm rfl
  | cons c trailing =>
    have hc := c.utf8Size_pos
    change _ = _ + (c.utf8Size + byteLength trailing) at hsize
    exact iff_of_false (by omega) (List.cons_ne_nil c trailing)

/-- What stands behind the `=` of a rule is read by offsets as from characters. -/
theorem parseConstrained_eq (spec : String) (name : List Char) (inverted : Bool) (rest : String) :
    parseConstrained plugins group spec name inverted rest =
      faultless (constrained plugins group spec.toList name inverted rest.toList) := by
  unfold parseConstrained constrained
  rw [String.ofList_toList]
  split
  · rfl
  split
  · next hhead =>
    obtain ⟨inner, hrest⟩ := List.head?_eq_some_iff.mp hhead
    rw [close_eq hrest, mapError_faultless, hrest, List.tail_cons]
    rcases hclose : Brackets.close inner with offset | ⟨body, trailing⟩
    · rfl
    obtain ⟨hbody, htrailing, hend⟩ := parts_of_close hrest hclose
    change (if 1 + byteLength body + 1 = rest.utf8ByteSize then _ else _) =
      faultless (if trailing.isEmpty = true then _ else _)
    by_cases hnothing : trailing = []
    · rw [if_pos (hend.mpr hnothing), if_pos (List.isEmpty_iff.mpr hnothing)]
      dsimp only
      rw [hbody, ok_bind, parseConstraint_eq, toList_trimmed, faultless_bind]
      rfl
    · rw [if_neg (mt hend.mp hnothing), if_neg (mt List.isEmpty_iff.mp hnothing)]
      dsimp only
      rw [htrailing]
      rfl
  · rfl

/-- A rule is read by offsets as from characters. -/
theorem parseRule_eq (spec : String) :
    parseRule plugins group spec = faultless (Rule.parse plugins group spec.toList) := by
  unfold parseRule
  rw [find_eq (by decide), mapError_faultless]
  rcases hfind : Brackets.find '=' spec.toList with offset | _ | ⟨before, after⟩
  · unfold Rule.parse
    rw [hfind]
    rfl
  · unfold Rule.parse
    rw [hfind, String.ofList_toList]
    change (if _ then _ else _) = faultless (if _ then _ else _)
    split <;> rfl
  · have htext := Brackets.append_of_find hfind
    change (part spec 0 (byteLength before) >>= fun before =>
      part spec (byteLength _ + 1) spec.utf8ByteSize >>= fun after => _) = _
    rw [part_before htext, ok_bind, part_behind rfl htext, ok_bind, parse_of_find hfind,
      ← toList_trimmed after, ← parseConstrained_eq, String.toList_ofList]

/-- A list of rules is read by offsets as from characters. -/
theorem parseList_eq (params : String) :
    parseList plugins group params = faultless (Rule.parseList plugins group params.toList) := by
  unfold parseList Rule.parseList
  rw [String.ofList_toList, split_eq (spells_singleton (by decide)), mapError_faultless]
  rcases Brackets.split (· == '&') params.toList with offset | specs
  · rfl
  · have hrules : (((specs.map trim).filter fun spec => !spec.isEmpty).map String.ofList).mapM
        (parseRule plugins group) =
        faultless (((specs.map trim).filter fun spec => !spec.isEmpty).mapM
          (Rule.parse plugins group)) := by
      rw [List.mapM_map]
      refine mapM_faultless fun spec _ => ?_
      rw [Function.comp_apply, parseRule_eq, String.toList_ofList]
    change (List.mapM _ (List.filter _ _) >>= fun rules => _) =
      faultless (List.mapM _ (List.filter _ _) >>= fun rules => _)
    rw [filter_trimmed, hrules, faultless_bind]
    refine bind_congr fun rules => ?_
    dsimp only
    split <;> rfl

/-- An element is found at the index behind the elements before it. -/
theorem idxOf?_append {b : UInt8} {before : List UInt8} (hbefore : b ∉ before)
    (after : List UInt8) : (before ++ b :: after).idxOf? b = some before.length := by
  induction before with
  | nil => rw [List.nil_append, List.idxOf?_cons, if_pos (beq_self_eq_true b)]; rfl
  | cons c before ih =>
    rw [List.mem_cons, not_or] at hbefore
    rw [List.cons_append, List.idxOf?_cons, if_neg (by simpa using Ne.symm hbefore.1),
      ih hbefore.2]
    rfl

/-- Whether a text has a `/` with no `=` before it is told by its bytes. -/
theorem slashFirst_eq (head : List Char) : slashFirst (String.ofList head) =
    .ok ((cutAt? '/' head).any fun (before, _) => !before.contains '=') := by
  have hslash : Marks (ascii '/') '/' := marks_ofNat '/' (by decide)
  unfold slashFirst
  rw [bytes_ofList]
  by_cases hmem : '/' ∈ head
  · obtain ⟨before, after, rfl, hbefore⟩ := List.eq_append_cons_of_mem hmem
    have htext : (String.ofList (before ++ '/' :: after)).toList = before ++ '/' :: after :=
      String.toList_ofList
    rw [hslash.encode_append_cons, idxOf?_append (mt hslash.mem_encode_iff.mp hbefore),
      cutAt?_append hbefore, length_encode]
    dsimp only
    rw [part_before htext, ok_bind, String.toList_ofList]
    rfl
  · rw [List.idxOf?_eq_none_iff.mpr (mt hslash.mem_encode_iff.mp hmem), cutAt?_eq_none hmem]
    rfl

/-- A group is cut by offsets as its characters are cut. -/
theorem splitGroup_eq (number : Nat) (group : String) : splitGroup number group =
    faultless ((Policy.splitGroup number group.toList).map
      (Option.map fun parts => (String.ofList parts.1, String.ofList parts.2))) := by
  unfold splitGroup Policy.splitGroup
  rw [find_eq (by decide), mapError_faultless]
  rcases hfind : Brackets.find '?' group.toList with offset | _ | ⟨head, params⟩
  · rfl
  · rfl
  · have htext := Brackets.append_of_find hfind
    change (part group 0 (byteLength head) >>= fun head =>
      part group (byteLength _ + 1) group.utf8ByteSize >>= fun params => _) = _
    have hbare : ((cutAt? '/' head).any (fun (before, _) => !before.contains '=') &&
        group.toList.contains '[') = (cutAt? '/' head).any fun (before, _) =>
          !before.contains '=' && group.toList.contains '[' := by
      cases cutAt? '/' head <;> rfl
    rw [part_before htext, ok_bind, part_behind rfl htext, ok_bind, slashFirst_eq, ok_bind,
      String.toList_ofList, hbare]
    dsimp only [Except.mapError, bind, Except.bind]
    split
    · rfl
    · split <;> rfl

/-- The rules of a group are added by offsets as from characters. -/
theorem addGroup_eq (policy : Policy) (number : Nat) (group : String) :
    addGroup plugins policy number group =
      faultless (policy.addGroup plugins number group.toList) := by
  unfold addGroup Policy.addGroup
  split
  · rfl
  · rw [splitGroup_eq]
    rcases Policy.splitGroup number group.toList with error | _ | ⟨pattern, params⟩
    · rfl
    · change (parseList _ _ _ >>= fun _ => _) = faultless (Rule.parseList _ _ _ >>= fun _ => _)
      rw [parseList_eq, faultless_bind]
      rfl
    · change (parseList _ _ (String.ofList params) >>= fun _ => _) =
        faultless (Rule.parseList _ _ params >>= fun _ => _)
      rw [parseList_eq, faultless_bind, String.toList_ofList, String.toList_ofList]
      rfl

/-- Rule text is read by offsets as from characters. -/
theorem parse_eq (plugins : List Plugin) (text : String) :
    parse plugins text = faultless (Policy.parse plugins text) := by
  have hascii : ∀ c ∈ [';', '\n'], c.toNat < 128 := by simp
  have hspells : Spells [ascii ';', ascii '\n'] Policy.isGroupEnd :=
    spells_map hascii fun c => by simp [Policy.isGroupEnd]
  unfold parse Policy.parse
  dsimp only
  rw [split_eq hspells, mapError_faultless, String.toList_ofList]
  rcases Brackets.split Policy.isGroupEnd (Policy.withoutComments text.toList) with _ | groups
  · rfl
  · change ((groups.map String.ofList).zipIdx 1).foldlM _ _ =
      faultless ((groups.zipIdx 1).foldlM _ _)
    rw [List.zipIdx_map, List.foldlM_map]
    refine foldlM_faultless (fun policy numbered => ?_) _ _
    obtain ⟨group, number⟩ := numbered
    change addGroup plugins policy number (trimmed (String.ofList group)) = _
    rw [addGroup_eq, toList_trimmed]

/-- Reading by offsets gives what reading from characters gives and never breaks off: no part is
taken out at offsets that are out of order or inside a character, no bracket is counted off where
none is open, no loop goes on after as many rounds as there are bytes and one more, and no bytes are
taken for a text that are none. The same holds of each scanner on its own, for all text and all
delimiters that are ASCII. -/
theorem reading_by_offsets_is_safe (plugins : List Plugin) (text : String) :
    parse plugins text = faultless (Policy.parse plugins text) ∧
    (∀ fault, parse plugins text ≠ .error (.fault fault)) ∧
    (∀ start stop, (∃ found, (part text start stop : Checked Error String) = .ok found) ↔
      start ≤ stop ∧ String.Pos.Raw.isValid text ⟨start⟩ = true ∧
        String.Pos.Raw.isValid text ⟨stop⟩ = true) ∧
    (∀ signs : List Char, (∀ c ∈ signs, c.toNat < 128) →
      split (signs.map ascii) text =
        faultless ((Brackets.split signs.contains text.toList).map (List.map String.ofList))) ∧
    (∀ sign : Char, sign.toNat < 128 →
      find (ascii sign) text = faultless ((Brackets.find sign text.toList).map
        (Option.map fun found => byteLength found.1)) ∧
      (unescapedParts (ascii sign) text : Checked Error (List String)) =
        .ok ((Brackets.unescapedParts sign text.toList).map String.ofList)) ∧
    ∀ rest, text.toList = '[' :: rest →
      close text = faultless ((Brackets.close rest).map fun found => 1 + byteLength found.1) := by
  refine ⟨parse_eq plugins text, fun fault => ?_, fun start stop => exists_part_iff,
    fun signs hascii => ?_, fun sign hascii => ?_, fun rest hrest => close_eq hrest⟩
  · rw [parse_eq]
    exact faultless_ne_fault _ fault
  · exact split_eq (spells_map hascii fun c => List.contains_iff_mem) text
  · exact ⟨find_eq hascii text, unescapedParts_eq hascii text⟩

/-- Backslashes in front of a character of two bytes and at the end of a text are no trouble. -/
theorem reading_by_offsets_is_safe_hidden :
    (∀ fault, parse [] "ü=[\\é,b]\\" ≠ .error (.fault fault)) ∧
      split [ascii '&'] "\\é&[&]ü&\\" = .ok ["\\é", "[&]ü", "\\"] ∧
      find (ascii '&') "\\é&[&]ü&\\" = .ok (some 3) ∧
      (unescapedParts (ascii '&') "\\é&[&]ü&\\" : Checked Error (List String)) =
        .ok ["é", "[", "]ü", "\\"] ∧
      close "[é\\]]" = .ok 5 := by
  obtain ⟨_, hnever, _⟩ := reading_by_offsets_is_safe [] "ü=[\\é,b]\\"
  obtain ⟨_, _, _, hsplit, hscan, _⟩ := reading_by_offsets_is_safe [] "\\é&[&]ü&\\"
  obtain ⟨_, _, _, _, _, hclose⟩ := reading_by_offsets_is_safe [] "[é\\]]"
  obtain ⟨hfind, hparts⟩ := hscan '&' (by decide)
  exact ⟨hnever, (hsplit ['&'] (List.forall_mem_singleton.mpr (by decide))).trans
      (by decide +kernel),
    hfind.trans (by decide +kernel), hparts.trans (by decide +kernel),
    (hclose "é\\]]".toList (by decide +kernel)).trans (by decide +kernel)⟩

end QueryGate.Offsets
