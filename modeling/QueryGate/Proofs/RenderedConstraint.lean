import QueryGate.Plugin.Builtin
import QueryGate.Proofs.BoundsShape
import QueryGate.Proofs.Joining
import QueryGate.Proofs.Passing
import QueryGate.Proofs.RuleText

/-!
# Constraints as text

Every constraint that needs no plugin has a text: a keyword, a star, nothing at all, two numerals,
or a list of values in which backslashes hide whatever could be misread. Each value starts with a
backslash, so that no list is mistaken for one of the other constraints or for the text of a plugin.
The text stands in one line, hides all brackets in it, and is read as the constraint.
-/

namespace QueryGate

open QueryGate.Text QueryGate.Brackets

/-! ## Values -/

/-- A character of a value, behind a backslash if it is a sign. -/
def escapeSign (c : Char) : List Char :=
  if c ∈ ['\\', ',', '[', ']'] then ['\\', c] else [c]

/-- The text of a value: a backslash stands before its first character and before every sign. -/
def escapeValue : List Char → List Char
  | [] => []
  | c :: cs => '\\' :: c :: cs.flatMap escapeSign

/-- The text of a character ends with the character. -/
theorem getLast?_escapeSign (c : Char) : (escapeSign c).getLast? = some c := by
  unfold escapeSign
  split <;> rfl

/-- A character has a text. -/
theorem escapeSign_ne_nil (c : Char) : escapeSign c ≠ [] := by
  unfold escapeSign
  split <;> exact List.cons_ne_nil _ _

/-- The text of a value is made of its characters and backslashes. -/
theorem eq_or_mem_of_mem_escapeValue {c : Char} {value : List Char} (h : c ∈ escapeValue value) :
    c = '\\' ∨ c ∈ value := by
  cases value with
  | nil => cases h
  | cons d cs =>
    rcases List.mem_cons.mp h with hescape | h
    · exact .inl hescape
    rcases List.mem_cons.mp h with rfl | h
    · exact .inr (List.mem_cons_self ..)
    obtain ⟨e, he, hc⟩ := List.mem_flatMap.mp h
    unfold escapeSign at hc
    split at hc
    · rcases List.mem_cons.mp hc with hescape | hc
      · exact .inl hescape
      · exact .inr (List.mem_cons_of_mem _ (List.mem_singleton.mp hc ▸ he))
    · exact .inr (List.mem_cons_of_mem _ (List.mem_singleton.mp hc ▸ he))

/-- The text of a trimmed value is trimmed. -/
theorem trimmed_escapeValue {value : List Char} (h : Trimmed value) :
    Trimmed (escapeValue value) := by
  cases value with
  | nil => exact h
  | cons c cs =>
    refine ⟨fun d hd => ?_, ?_⟩
    · rw [← Option.mem_some.mp hd]
      decide
    · rcases List.eq_nil_or_concat' cs with rfl | ⟨init, last, rfl⟩
      · exact h.last
      · have hend : (escapeValue (c :: (init ++ [last]))).getLast? =
            (c :: (init ++ [last])).getLast? := by
          have hleft : escapeValue (c :: (init ++ [last])) =
              ('\\' :: c :: init.flatMap escapeSign) ++ escapeSign last := by
            simp [escapeValue]
          rw [hleft, List.getLast?_append_of_ne_nil _ (escapeSign_ne_nil last), getLast?_escapeSign,
            ← List.cons_append, List.getLast?_concat]
        rw [hend]
        exact h.last

/-- The brackets in the texts of characters are hidden. -/
theorem passes_flatMap_escapeSign (cs : List Char) :
    Passes (fun _ => false) 0 (cs.flatMap escapeSign) 0 := by
  induction cs with
  | nil => exact .nil 0
  | cons c cs ih =>
    rw [List.flatMap_cons]
    refine Passes.append ?_ ih
    unfold escapeSign
    split
    · exact .escape c (.nil 0)
    · next hplain =>
      simp only [List.mem_cons, List.not_mem_nil, or_false, not_or] at hplain
      exact .plain ⟨hplain.1, hplain.2.2⟩ (fun _ => rfl) (.nil 0)

/-- The brackets in the text of a value are hidden. -/
theorem passes_escapeValue (value : List Char) :
    Passes (fun _ => false) 0 (escapeValue value) 0 := by
  cases value with
  | nil => exact .nil 0
  | cons c cs => exact .escape c (passes_flatMap_escapeSign cs)

/-- A character behind a backslash belongs to the value that is read. -/
theorem unescapedParts_escape (c : Char) (cs : List Char) :
    unescapedParts ',' ('\\' :: c :: cs) = (unescapedParts ',' cs).modifyHead (c :: ·) := by
  rw [unescapedParts.eq_def]
  rfl

/-- No value is read before a comma at the start. -/
theorem unescapedParts_comma (cs : List Char) :
    unescapedParts ',' (',' :: cs) = [] :: unescapedParts ',' cs := by
  rw [unescapedParts.eq_def]
  rfl

/-- The text of a character is read as the character. -/
theorem unescapedParts_escapeSign_append (c : Char) (rest : List Char) :
    unescapedParts ',' (escapeSign c ++ rest) =
      (unescapedParts ',' rest).modifyHead (c :: ·) := by
  unfold escapeSign
  split
  · exact unescapedParts_escape c rest
  · next hplain =>
    simp only [List.mem_cons, List.not_mem_nil, or_false, not_or] at hplain
    rw [List.singleton_append, unescapedParts.eq_def]
    dsimp only
    rw [if_neg hplain.1]
    exact if_neg hplain.2.1

/-- The texts of characters are read as the characters. -/
theorem unescapedParts_flatMap_escapeSign_append (cs rest : List Char) :
    unescapedParts ',' (cs.flatMap escapeSign ++ rest) =
      (unescapedParts ',' rest).modifyHead (cs ++ ·) := by
  induction cs with
  | nil => exact (congrFun List.modifyHead_id _).symm
  | cons c cs ih =>
    rw [List.flatMap_cons, List.append_assoc, unescapedParts_escapeSign_append, ih,
      List.modifyHead_modifyHead]
    rfl

/-- The text of a value is read as the value when text without a value follows it. -/
theorem unescapedParts_escapeValue_append (value rest : List Char) :
    unescapedParts ',' (escapeValue value ++ rest) =
      (unescapedParts ',' rest).modifyHead (value ++ ·) := by
  cases value with
  | nil => exact (congrFun List.modifyHead_id _).symm
  | cons c cs =>
    change unescapedParts ',' ('\\' :: c :: (cs.flatMap escapeSign ++ rest)) = _
    rw [unescapedParts_escape, unescapedParts_flatMap_escapeSign_append,
      List.modifyHead_modifyHead]
    rfl

/-- The texts of values, joined with commas, are read as the values. -/
theorem unescapedParts_intercalate {values : List (List Char)} (hne : values ≠ []) :
    unescapedParts ',' ([','].intercalate (values.map escapeValue)) = values := by
  induction values with
  | nil => exact absurd rfl hne
  | cons value values ih =>
    cases values with
    | nil =>
      have hread := unescapedParts_escapeValue_append value []
      rw [List.append_nil] at hread
      rw [List.map_singleton, List.intercalate_singleton, hread]
      exact congrArg (fun v => [v]) (List.append_nil value)
    | cons next values =>
      have hrest := ih (List.cons_ne_nil _ _)
      rw [List.map_cons] at hrest
      rw [List.map_cons, List.map_cons, List.intercalate_cons_cons, List.append_assoc,
        unescapedParts_escapeValue_append, List.singleton_append, unescapedParts_comma, hrest]
      exact congrArg (· :: next :: values) (List.append_nil value)

/-! ## Constraints -/

namespace Constraint

/-- A constraint that needs no plugin and that text can ask for. -/
def Native : Constraint → Prop
  | .keyOnly => True
  | .any => True
  | .callback => True
  | .range min max => FitsWord min ∧ FitsWord max ∧ min ≤ max
  | .oneOf values =>
    values ≠ [] ∧ ∀ value ∈ values, value ≠ "" ∧ Trimmed value.toList ∧ '\n' ∉ value.toList
  | .plugin .. => False

instance : (constraint : Constraint) → Decidable constraint.Native
  | .keyOnly => .isTrue trivial
  | .any => .isTrue trivial
  | .callback => .isTrue trivial
  | .range .. => inferInstanceAs (Decidable (_ ∧ _ ∧ _))
  | .oneOf _ => inferInstanceAs (Decidable (_ ∧ _))
  | .plugin .. => .isFalse id

/-- The text of a constraint, as it stands between brackets. -/
def render : Constraint → List Char
  | .keyOnly => []
  | .any => ['*']
  | .callback => "callback".toList
  | .range min max => numeral min ++ '-' :: numeral max
  | .oneOf values => [','].intercalate (values.map fun value => escapeValue value.toList)
  | .plugin _ source _ => source.toList

variable {constraint : Constraint}

/-- The text of a constraint is in one line. -/
theorem Native.lineFeed_not_mem_render (h : constraint.Native) : '\n' ∉ constraint.render := by
  cases constraint with
  | keyOnly => exact List.not_mem_nil
  | any => decide
  | callback => decide
  | range min max => exact fun hmem => absurd (isBlank_of_mem_numerals hmem) (by decide)
  | oneOf values =>
    intro hmem
    rcases mem_of_mem_intercalate hmem with hsep | ⟨text, htext, hmem⟩
    · simp at hsep
    · obtain ⟨value, hvalue, rfl⟩ := List.mem_map.mp htext
      rcases eq_or_mem_of_mem_escapeValue hmem with hescape | hmem
      · cases hescape
      · exact (h.2 value hvalue).2.2 hmem
  | plugin => exact h.elim

/-- The text of a constraint has no blanks around it. -/
theorem Native.trimmed_render (h : constraint.Native) : Trimmed constraint.render := by
  cases constraint with
  | keyOnly => exact trimmed_of_forall nofun
  | any => decide
  | callback => decide
  | range min max => exact trimmed_of_forall fun _ => isBlank_of_mem_numerals
  | oneOf values =>
    refine (trimmed_intercalate (by decide) (by simpa using h.1) fun text htext => ?_).2
    obtain ⟨value, hvalue, rfl⟩ := List.mem_map.mp htext
    obtain ⟨hne, htrimmed, _⟩ := h.2 value hvalue
    refine ⟨?_, trimmed_escapeValue htrimmed⟩
    cases hchars : value.toList with
    | nil => exact absurd (String.toList_eq_nil_iff.mp hchars) hne
    | cons c cs => exact List.cons_ne_nil _ _
  | plugin => exact h.elim

/-- All brackets in the text of a constraint are hidden. -/
theorem Native.passes_render (h : constraint.Native) :
    Passes (fun _ => false) 0 constraint.render 0 := by
  have hplain : ∀ {cs : List Char}, '\\' ∉ cs → '[' ∉ cs → ']' ∉ cs →
      Passes (fun _ => false) 0 cs 0 := by
    intro cs hescape hopening hclosing
    refine .of_forall fun c hc => ⟨⟨?_, ?_, ?_⟩, rfl⟩
    · exact ne_of_mem_of_not_mem hc hescape
    · exact ne_of_mem_of_not_mem hc hopening
    · exact ne_of_mem_of_not_mem hc hclosing
  cases constraint with
  | keyOnly => exact .nil 0
  | any => exact hplain (by decide) (by decide) (by decide)
  | callback => exact hplain (by decide) (by decide) (by decide)
  | range min max =>
    refine hplain ?_ ?_ ?_
    all_goals exact fun hmem => absurd (eq_or_isDigit_of_mem_numerals hmem) (by decide)
  | oneOf values =>
    refine .intercalate (by decide) rfl fun text htext => ?_
    obtain ⟨value, _, rfl⟩ := List.mem_map.mp htext
    exact passes_escapeValue value.toList
  | plugin => exact h.elim

/-! ## Reading constraints -/

/-- Text that starts with a backslash is none of the constraints that need no plugin. -/
theorem foreign_of_escape (rest : List Char) : Foreign ('\\' :: rest) := by
  refine ⟨List.cons_ne_nil _ _, ?_, ?_, ?_⟩
  · intro heq
    exact absurd (List.cons.inj heq).1 (by decide)
  · intro heq
    have hhead : "callback".toList.head? = some 'c' := by decide
    rw [← heq] at hhead
    exact absurd (Option.some.inj hhead) (by decide)
  · have hnumber : takeInteger ('\\' :: rest) = none := by
      rw [takeInteger_of_unsigned (by decide) (by decide)]
      rfl
    unfold hasBoundsShape splitBounds?
    rw [hnumber]
    rfl

/-- The values of a list are read from their texts. -/
theorem valueList_render {values : List String} (hne : values ≠ [])
    (hvalues : ∀ value ∈ values, value ≠ "" ∧ Trimmed value.toList) :
    valueList (Constraint.oneOf values).render = values := by
  have hparts : unescapedParts ',' (Constraint.oneOf values).render = values.map String.toList := by
    have hread := unescapedParts_intercalate (by simpa using hne : values.map String.toList ≠ [])
    rw [List.map_map] at hread
    exact hread
  have htrim : (values.map String.toList).map trim = values.map String.toList := by
    rw [List.map_map]
    exact List.map_congr_left fun value hvalue => (hvalues value hvalue).2.trim_eq
  have hkept : (values.map String.toList).filter (fun value => !value.isEmpty) =
      values.map String.toList := by
    refine List.filter_eq_self.mpr fun text htext => ?_
    obtain ⟨value, hvalue, rfl⟩ := List.mem_map.mp htext
    simpa using (hvalues value hvalue).1
  unfold valueList
  rw [hparts, htrim, hkept, List.map_map]
  simp

end Constraint

/-- A plugin leaves text that starts with a backslash to others. -/
def Plugin.LeavesEscapes (plugin : Plugin) : Prop :=
  ∀ (name : String) (rest : List Char),
    plugin.parse name (String.ofList ('\\' :: rest)) = .notApplicable

/-- No keyword stands at the start of text that starts with a backslash. -/
theorem Plugin.afterKeyword?_escape {keyword : String} (hne : keyword.toList ≠ [])
    (hhead : keyword.toList.head? ≠ some '\\') (rest : List Char) :
    afterKeyword? keyword (String.ofList ('\\' :: rest)) = none := by
  obtain ⟨c, cs, hcons⟩ := List.exists_cons_of_ne_nil hne
  unfold afterKeyword?
  rw [String.toList_ofList]
  rw [hcons] at hhead ⊢
  have hc : ¬(c == '\\') = true := by simpa using hhead
  change Option.map trim (if c == '\\' then cs.isPrefixOf? rest else none) = none
  rw [if_neg hc]
  rfl

/-- The built-in plugins leave text that starts with a backslash to others. -/
theorem Plugin.leavesEscapes_of_mem_builtin :
    ∀ plugin ∈ Plugin.builtin, plugin.LeavesEscapes := by
  intro plugin hplugin name rest
  simp only [Plugin.builtin, List.mem_cons, List.not_mem_nil, or_false] at hplugin
  rcases hplugin with rfl | rfl | rfl | rfl | rfl
  · change parseRange _ = _
    unfold parseRange
    rw [afterKeyword?_escape (by decide) (by decide)]
  · change parseLength _ = _
    unfold parseLength
    rw [afterKeyword?_escape (by decide) (by decide)]
  · change parseComparison _ = _
    unfold parseComparison
    rw [String.toList_ofList]
    rfl
  · change globSyntax.parse _ = _
    unfold ExpressionSyntax.parse
    rw [afterKeyword?_escape (by decide) (by decide)]
  · change regexSyntax.parse _ = _
    unfold ExpressionSyntax.parse
    rw [afterKeyword?_escape (by decide) (by decide)]

namespace Constraint

/-- Plugins that leave escapes have nothing to say about such text. -/
theorem ofPlugins_of_escape {plugins : List Plugin} (h : ∀ plugin ∈ plugins, plugin.LeavesEscapes)
    (name : String) (rest : List Char) :
    ofPlugins plugins name (String.ofList ('\\' :: rest)) = .ok none := by
  induction plugins with
  | nil => rfl
  | cons first others ih =>
    rw [List.forall_mem_cons] at h
    rw [ofPlugins, h.1 name rest]
    exact ih h.2

/-- The text of a list of values starts with a backslash. -/
theorem exists_render_oneOf {values : List String} (hne : values ≠ [])
    (hvalues : ∀ value ∈ values, value ≠ "") :
    ∃ rest, (Constraint.oneOf values).render = '\\' :: rest := by
  obtain ⟨value, others, rfl⟩ := List.exists_cons_of_ne_nil hne
  obtain ⟨c, cs, hchars⟩ := List.exists_cons_of_ne_nil
    (mt String.toList_eq_nil_iff.mp (hvalues value (List.mem_cons_self ..)))
  obtain ⟨rest, hrest⟩ := exists_intercalate_cons [','] (escapeValue value.toList)
    (others.map fun value => escapeValue value.toList)
  have hfirst : escapeValue value.toList = '\\' :: c :: cs.flatMap escapeSign := by
    rw [hchars]
    rfl
  exact ⟨_, hrest.trans (congrArg (· ++ rest) hfirst)⟩

/-- The text of a constraint spells it. -/
theorem Native.spelled_render {plugins : List Plugin}
    (hplugins : ∀ plugin ∈ plugins, plugin.LeavesEscapes) (name : String) {constraint : Constraint}
    (h : constraint.Native) : Spelled plugins name constraint.render constraint := by
  cases constraint with
  | keyOnly => exact .keyOnly
  | any => exact .any
  | callback => exact .callback
  | range min max =>
    exact .range (bounds?_eq_some_iff.mpr ⟨spellsBounds_numerals min max, h.1, h.2.1⟩) h.2.2
  | oneOf values =>
    obtain ⟨hne, hvalues⟩ := h
    have hread := valueList_render hne fun value hvalue =>
      ⟨(hvalues value hvalue).1, (hvalues value hvalue).2.1⟩
    obtain ⟨rest, hescape⟩ := exists_render_oneOf hne fun value hvalue => (hvalues value hvalue).1
    have hspelled : Spelled plugins name (Constraint.oneOf values).render
        (.oneOf (valueList (Constraint.oneOf values).render)) := by
      refine .oneOf ?_ ?_ (hread.symm ▸ hne)
      · rw [hescape]
        exact foreign_of_escape rest
      · rw [hescape]
        exact ofPlugins_of_escape hplugins name rest
    rwa [hread] at hspelled
  | plugin => exact h.elim

end Constraint

end QueryGate
