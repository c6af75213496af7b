import Mathlib.Data.List.DropRight
import QueryGate.Text.Blank

/-!
# Trimmed text

Trimming leaves a text that neither starts nor ends with a blank, and leaves such a text as it is.
-/

namespace QueryGate.Text

/-- A text neither starts nor ends with a blank. -/
structure Trimmed (cs : List Char) : Prop where
  /-- The text does not start with a blank. -/
  head : ∀ c ∈ cs.head?, isBlank c = false
  /-- The text does not end with a blank. -/
  last : ∀ c ∈ cs.getLast?, isBlank c = false

/-- Trimming the end is dropping blanks from the right. -/
theorem trimEnd_eq_rdropWhile (cs : List Char) : trimEnd cs = cs.rdropWhile isBlank := rfl

/-- What trimming leaves is trimmed. -/
theorem trimmed_trim (cs : List Char) : Trimmed (trim cs) := by
  have hprefix : trim cs <+: trimStart cs := by
    unfold trim
    rw [trimEnd_eq_rdropWhile]
    exact List.rdropWhile_prefix isBlank _
  constructor
  · intro c hc
    obtain ⟨rest, hrest⟩ := hprefix
    have hhead : (trimStart cs).head? = some c := by
      rw [← hrest, List.head?_append, Option.mem_def.mp hc]
      rfl
    have hkept := List.head?_dropWhile_not isBlank cs
    rw [show cs.dropWhile isBlank = trimStart cs from rfl, hhead] at hkept
    simpa using hkept
  · intro c hc
    unfold trim at hc
    rw [trimEnd_eq_rdropWhile] at hc
    obtain ⟨hne, hlast⟩ := List.mem_getLast?_eq_getLast hc
    rw [hlast]
    simpa using List.rdropWhile_last_not isBlank _ hne

/-- A text without blanks is trimmed. -/
theorem trimmed_of_forall {cs : List Char} (h : ∀ c ∈ cs, isBlank c = false) : Trimmed cs :=
  ⟨fun c hc => h c (List.mem_of_mem_head? hc), fun c hc => h c (List.mem_of_mem_getLast? hc)⟩

/-- A trimmed text has no blanks at its start. -/
theorem Trimmed.trimStart_eq {cs : List Char} (h : Trimmed cs) : trimStart cs = cs := by
  cases cs with
  | nil => rfl
  | cons c cs =>
    have hc := h.head c rfl
    exact List.dropWhile_cons_of_neg (by simp [hc])

/-- Trimming leaves a trimmed text as it is. -/
theorem Trimmed.trim_eq {cs : List Char} (h : Trimmed cs) : trim cs = cs := by
  unfold trim
  rw [h.trimStart_eq, trimEnd_eq_rdropWhile, List.rdropWhile_eq_self_iff]
  intro hne
  have hlast := h.last _ (List.getLast?_eq_some_getLast hne)
  simp [hlast]

/-- The trimmed texts are those that trimming leaves as they are. -/
theorem trimmed_iff {cs : List Char} : Trimmed cs ↔ trim cs = cs :=
  ⟨Trimmed.trim_eq, fun h => h ▸ trimmed_trim cs⟩

instance (cs : List Char) : Decidable (Trimmed cs) :=
  decidable_of_iff' _ trimmed_iff

/-- Trimmed texts stay trimmed when they are put together, unless one of them is empty. -/
theorem Trimmed.append {cs ds : List Char} (hcs : Trimmed cs) (hds : Trimmed ds) (hcsNe : cs ≠ [])
    (hdsNe : ds ≠ []) : Trimmed (cs ++ ds) := by
  constructor
  · rw [List.head?_append_of_ne_nil _ hcsNe]
    exact hcs.head
  · rw [List.getLast?_append_of_ne_nil _ hdsNe]
    exact hds.last

/-- A blank at the end of a text makes no difference once the text is trimmed. -/
theorem trim_append_blank {b : Char} (hb : isBlank b = true) (cs : List Char) :
    trim (cs ++ [b]) = trim cs := by
  unfold trim trimStart
  rw [List.dropWhile_append]
  split
  · next hempty =>
    rw [List.isEmpty_iff.mp hempty, List.dropWhile_cons_of_pos hb]
    rfl
  · rw [trimEnd_eq_rdropWhile, List.rdropWhile_concat_pos isBlank _ _ hb]
    rfl

/-- Blanks at the end of a text make no difference once the text is trimmed. -/
theorem trim_append_blanks {blanks : List Char} (h : ∀ c ∈ blanks, isBlank c = true)
    (cs : List Char) : trim (cs ++ blanks) = trim cs := by
  induction blanks using List.reverseRecOn with
  | nil => rw [List.append_nil]
  | append_singleton blanks b ih =>
    rw [List.forall_mem_append, List.forall_mem_singleton] at h
    rw [← List.append_assoc, trim_append_blank h.2, ih h.1]

/-- A text may be trimmed at its end first. -/
theorem trim_trimEnd (cs : List Char) : trim (trimEnd cs) = trim cs := by
  have hcut : trimEnd cs ++ cs.rtakeWhile isBlank = cs := List.rdropWhile_append_rtakeWhile
  have hblanks : ∀ c ∈ cs.rtakeWhile isBlank, isBlank c = true := fun c => List.mem_rtakeWhile_imp
  conv_rhs => rw [← hcut]
  rw [trim_append_blanks hblanks]

/-- A text may be trimmed at its start first. -/
theorem trim_trimStart (cs : List Char) : trim (trimStart cs) = trim cs := by
  unfold trim trimStart
  rw [List.dropWhile_idempotent]

/-- The start of a text is trimmed in front of a character that is no blank. -/
theorem trimStart_append {ds : List Char} (h : ∀ c ∈ ds.head?, isBlank c = false)
    (cs : List Char) : trimStart (cs ++ ds) = trimStart cs ++ ds := by
  have hds : ds.dropWhile isBlank = ds := by
    cases ds with
    | nil => rfl
    | cons c ds => exact List.dropWhile_cons_of_neg (by simp [h c rfl])
  unfold trimStart
  rw [List.dropWhile_append, hds]
  split
  · next hempty => rw [List.isEmpty_iff.mp hempty, List.nil_append]
  · rfl

/-- The end of a text is trimmed behind a character that is no blank. -/
theorem trimEnd_append {cs : List Char} (h : ∀ c ∈ cs.getLast?, isBlank c = false)
    (ds : List Char) : trimEnd (cs ++ ds) = cs ++ trimEnd ds := by
  simp only [trimEnd_eq_rdropWhile]
  induction ds using List.reverseRecOn with
  | nil =>
    rw [List.append_nil, List.rdropWhile_nil, List.append_nil, List.rdropWhile_eq_self_iff]
    exact fun hne => by simp [h _ (List.getLast?_eq_some_getLast hne)]
  | append_singleton ds d ih =>
    rw [← List.append_assoc, List.rdropWhile_concat, List.rdropWhile_concat, ih]
    split
    · rfl
    · rw [List.append_assoc]

/-- Around a middle that neither starts nor ends with a blank, a text is trimmed at either end. -/
theorem trim_append_append {middle : List Char} (h : Trimmed middle) (hne : middle ≠ [])
    (before after : List Char) :
    trim (before ++ (middle ++ after)) = trimStart before ++ (middle ++ trimEnd after) := by
  have hhead : ∀ c ∈ (middle ++ after).head?, isBlank c = false := by
    rw [List.head?_append_of_ne_nil _ hne]
    exact h.head
  have hlast : ∀ c ∈ (trimStart before ++ middle).getLast?, isBlank c = false := by
    rw [List.getLast?_append_of_ne_nil _ hne]
    exact h.last
  unfold trim
  rw [trimStart_append hhead, ← List.append_assoc, trimEnd_append hlast, List.append_assoc]

/-- A character that is no blank is still there once the text is trimmed. -/
theorem mem_trim {c : Char} {cs : List Char} (hc : isBlank c = false) (h : c ∈ cs) :
    c ∈ trim cs := by
  obtain ⟨before, after, rfl⟩ := List.append_of_mem h
  have hmiddle : Trimmed [c] := trimmed_of_forall (by simpa using hc)
  have htrim := trim_append_append hmiddle (List.cons_ne_nil c []) before after
  rw [List.singleton_append, List.singleton_append] at htrim
  rw [htrim]
  exact List.mem_append_right _ (List.mem_cons_self ..)

end QueryGate.Text
