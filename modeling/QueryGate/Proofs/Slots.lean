import Mathlib.Data.List.Nodup
import QueryGate.Generation.Basic
import QueryGate.Proofs.Mask

/-!
# Rules by slot are rules by name

A generation keeps rules under the slots of their names. What is kept under the slot of a name is
the last rule with that name in the list that the scope was made from, and the bit of the slot says
whether there is one. Nothing here depends on which slot a name has.
-/

namespace QueryGate

/-! ## Names and slots -/

namespace NameIndex

variable {index : NameIndex} {name other : String} {slot : Nat}

/-- The name of a slot is at its place among the names. -/
theorem getElem?_of_slot? (h : index.slot? name = some slot) : index.names[slot]? = some name := by
  obtain ⟨hlt, hname, _⟩ := List.idxOf?_eq_some_iff.mp h
  rw [List.getElem?_eq_getElem hlt, hname]

/-- A slot lies below the number of slots. -/
theorem slot?_lt (h : index.slot? name = some slot) : slot < index.size :=
  (List.getElem?_eq_some_iff.mp (getElem?_of_slot? h)).1

/-- Two names with one slot are the same name. -/
theorem eq_of_slot? (h : index.slot? name = some slot) (ho : index.slot? other = some slot) :
    name = other := by
  have hname := getElem?_of_slot? h
  rw [getElem?_of_slot? ho] at hname
  exact (Option.some.inj hname).symm

/-- A name has a slot if it is one of the names. -/
theorem exists_slot?_iff : (∃ slot, index.slot? name = some slot) ↔ name ∈ index.names := by
  unfold slot?
  rw [← Option.isSome_iff_exists, List.isSome_idxOf?]

/-- A slot below the number of slots is that of a name. -/
theorem exists_name_of_lt (h : slot < index.size) : ∃ name, index.slot? name = some slot := by
  refine ⟨index.names[slot], List.idxOf?_eq_some_iff.mpr ⟨h, rfl, ?_⟩⟩
  intro earlier hearlier hsame
  have hplace := index.nodup.getElem_inj_iff.mp hsame
  omega

/-- Giving a name a slot adds it to the names. -/
theorem mem_names_insert :
    other ∈ (index.insert name).names ↔ other ∈ index.names ∨ other = name := by
  unfold insert
  split
  · next hmem =>
    constructor
    · exact .inl
    · rintro (h | rfl)
      · exact h
      · exact hmem
  · rw [List.mem_append, List.mem_singleton]

/-- Giving names slots one after the other adds all of them to the names. -/
theorem mem_names_foldl_insert (names : List String) :
    other ∈ (names.foldl insert index).names ↔ other ∈ index.names ∨ other ∈ names := by
  induction names generalizing index with
  | nil => simp
  | cons name names ih =>
    rw [List.foldl_cons, ih, mem_names_insert, List.mem_cons, or_assoc]

end NameIndex

/-! ## The last rule of a name -/

/-- The last rule of a list with a name. -/
def Rule.lastNamed? (rules : List Rule) (name : String) : Option Rule :=
  rules.reverse.find? fun rule => rule.name == name

/-- Whether a list of rules declares a name. -/
def Rule.declares (rules : List Rule) (name : String) : Bool :=
  rules.any fun rule => rule.name == name

namespace Rule

variable {rules : List Rule} {name : String}

/-- A rule at the end hides all earlier ones of its name. -/
theorem lastNamed?_cons (rule : Rule) (rules : List Rule) (name : String) :
    lastNamed? (rule :: rules) name =
      (lastNamed? rules name).or (if rule.name = name then some rule else none) := by
  unfold lastNamed?
  rw [List.reverse_cons, List.find?_append, List.find?_singleton]
  simp only [beq_iff_eq]

/-- There is a last rule of a name exactly when the name is declared. -/
theorem isSome_lastNamed? (rules : List Rule) (name : String) :
    (lastNamed? rules name).isSome = declares rules name := by
  unfold lastNamed? declares
  rw [List.isSome_find?, List.any_reverse]

/-- A name is declared if some rule has it. -/
theorem declares_iff : declares rules name = true ↔ ∃ rule ∈ rules, rule.name = name := by
  unfold declares
  rw [List.any_eq_true]
  simp only [beq_iff_eq]

/-- The last rule of a name has that name. -/
theorem name_of_lastNamed? {rule : Rule} (h : lastNamed? rules name = some rule) :
    rule.name = name := by
  simpa using List.find?_some h

/-- The last rule of a name is one of the rules. -/
theorem mem_of_lastNamed? {rule : Rule} (h : lastNamed? rules name = some rule) :
    rule ∈ rules :=
  List.mem_reverse.mp (List.mem_of_find?_eq_some h)

/-- Where names are distinct, the last rule of a name is the only one. -/
theorem lastNamed?_eq_some_iff (hdistinct : (rules.map Rule.name).Nodup) {rule : Rule} :
    lastNamed? rules name = some rule ↔ rule ∈ rules ∧ rule.name = name := by
  constructor
  · intro h
    exact ⟨mem_of_lastNamed? h, name_of_lastNamed? h⟩
  · rintro ⟨hmem, hname⟩
    have hsome : (lastNamed? rules name).isSome = true := by
      rw [isSome_lastNamed?, declares_iff]
      exact ⟨rule, hmem, hname⟩
    obtain ⟨last, hlast⟩ := Option.isSome_iff_exists.mp hsome
    have hsame : last.name = rule.name := (name_of_lastNamed? hlast).trans hname.symm
    rw [hlast, List.inj_on_of_nodup_map hdistinct (mem_of_lastNamed? hlast) hmem hsame]

end Rule

/-! ## Prepared scopes -/

namespace PreparedScope

variable {index : NameIndex} {name : String} {slot : Nat}

/-- The mask of rules represents a set of slots. -/
theorem fits_maskOf (rules : List Rule) (index : NameIndex) :
    (maskOf rules index).Fits index.size :=
  (Mask.fits_empty index.size).foldl_set _

/-- The bit of a name's slot says whether the name is declared. -/
theorem get_maskOf (h : index.slot? name = some slot) (rules : List Rule) :
    (maskOf rules index).get slot = Rule.declares rules name := by
  have hlt := NameIndex.slot?_lt h
  unfold maskOf
  rw [(Mask.fits_empty index.size).get_foldl_set, Mask.get_empty, Bool.false_or,
    Bool.eq_iff_iff, decide_eq_true_iff, Rule.declares_iff, List.mem_filterMap]
  constructor
  · rintro ⟨⟨rule, hmem, hslot⟩, _⟩
    exact ⟨rule, hmem, NameIndex.eq_of_slot? hslot h⟩
  · rintro ⟨rule, hmem, rfl⟩
    exact ⟨⟨rule, hmem, h⟩, hlt⟩

/-- Puts a rule under the slot of its name. -/
def place (index : NameIndex) (slots : List (Option Rule)) (rule : Rule) : List (Option Rule) :=
  match index.slot? rule.name with
  | some slot => slots.set slot (some rule)
  | none => slots

/-- Placing a rule moves no slot. -/
theorem length_place (index : NameIndex) (slots : List (Option Rule)) (rule : Rule) :
    (place index slots rule).length = slots.length := by
  unfold place
  split
  · exact List.length_set
  · rfl

/-- A placed rule is found under its name's slot, and nothing else changes. -/
theorem getElem?_place (h : index.slot? name = some slot) {slots : List (Option Rule)}
    (hlength : slots.length = index.size) (rule : Rule) :
    (place index slots rule)[slot]? =
      if rule.name = name then some (some rule) else slots[slot]? := by
  have hlt : slot < slots.length := hlength ▸ NameIndex.slot?_lt h
  unfold place
  by_cases hname : rule.name = name
  · rw [if_pos hname, hname, h]
    exact List.getElem?_set_self hlt
  · rw [if_neg hname]
    split
    · next other hother =>
      have hne : other ≠ slot := by
        rintro rfl
        exact hname (NameIndex.eq_of_slot? hother h)
      exact List.getElem?_set_ne hne
    · rfl

/-- Of the rules placed one after the other the last of a name is found under the name's slot. -/
theorem getElem?_foldl_place (h : index.slot? name = some slot) (rules : List Rule) :
    ∀ {slots : List (Option Rule)}, slots.length = index.size →
      (rules.foldl (place index) slots)[slot]?.join =
        (Rule.lastNamed? rules name).or slots[slot]?.join := by
  induction rules with
  | nil => simp [Rule.lastNamed?]
  | cons rule rules ih =>
    intro slots hlength
    have hplaced := (length_place index slots rule).trans hlength
    rw [List.foldl_cons, ih hplaced, getElem?_place h hlength, Rule.lastNamed?_cons,
      Option.or_assoc]
    congr 1
    split <;> simp

/-- Under the slot of a name is the last rule of that name. -/
theorem join_slotsOf (h : index.slot? name = some slot) (rules : List Rule) :
    (slotsOf rules index)[slot]?.join = Rule.lastNamed? rules name := by
  have hlt := NameIndex.slot?_lt h
  have hplaced := getElem?_foldl_place h rules
    (List.length_replicate (n := index.size) (a := (none : Option Rule)))
  rw [List.getElem?_replicate, if_pos hlt] at hplaced
  change (rules.foldl (place index) (List.replicate index.size none))[slot]?.join = _
  rw [hplaced]
  exact Option.or_none

end PreparedScope

/-! ## Generations -/

namespace Generation

/-- The names with slots are those of all rules of the policy. -/
theorem mem_names_indexOf (policy : Policy) (name : String) :
    name ∈ (indexOf policy).names ↔
      Rule.declares policy.globals name = true ∨
        ∃ scope ∈ policy.scopes, Rule.declares scope.params name = true := by
  unfold indexOf
  rw [NameIndex.mem_names_foldl_insert]
  simp only [NameIndex.empty, List.not_mem_nil, false_or, List.mem_map, List.mem_append,
    List.mem_flatMap, Rule.declares_iff]
  constructor
  · rintro ⟨rule, hglobal | ⟨scope, hscope, hmem⟩, hname⟩
    · exact .inl ⟨rule, hglobal, hname⟩
    · exact .inr ⟨scope, hscope, rule, hmem, hname⟩
  · rintro (⟨rule, hglobal, hname⟩ | ⟨scope, hscope, rule, hmem, hname⟩)
    · exact ⟨rule, .inl hglobal, hname⟩
    · exact ⟨rule, .inr ⟨scope, hscope, hmem⟩, hname⟩

end Generation

end QueryGate
