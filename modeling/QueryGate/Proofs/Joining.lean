import Mathlib.Data.List.Flatten
import QueryGate.Proofs.Trimming

/-!
# Texts joined with separators

Texts that are joined with a separator may be joined in portions, and what is joined is made of them
and the separator. Cutting a text at a separator goes the other way.
-/

namespace QueryGate.Text

/-- Texts joined after a first one stand behind it, each with the separator in front. -/
theorem intercalate_cons (sep first : List Char) (rest : List (List Char)) :
    sep.intercalate (first :: rest) = first ++ rest.flatMap (sep ++ ·) := by
  induction rest generalizing first with
  | nil => simp [List.intercalate]
  | cons second rest ih =>
    have hsecond := ih second
    unfold List.intercalate at hsecond ⊢
    rw [List.intersperse_cons_cons, List.flatten_cons, List.flatten_cons, hsecond,
      List.flatMap_cons, List.append_assoc]

/-- Joining some of the texts takes only characters away. -/
theorem intercalate_sublist (sep : List Char) {part all : List (List Char)} (h : part.Sublist all) :
    (sep.intercalate part).Sublist (sep.intercalate all) := by
  induction h with
  | slnil => exact .slnil
  | @cons part all first h ih =>
    refine ih.trans ?_
    cases all with
    | nil => exact List.nil_sublist _
    | cons second rest =>
      rw [intercalate_cons, intercalate_cons, List.flatMap_cons, List.append_assoc]
      exact (List.sublist_append_right sep _).trans (List.sublist_append_right first _)
  | @cons_cons part all first h ih =>
    rw [intercalate_cons, intercalate_cons]
    exact (List.Sublist.refl first).append (h.flatMap _)

/-- What is joined starts with the first text. -/
theorem exists_intercalate_cons (sep first : List Char) (rest : List (List Char)) :
    ∃ more, sep.intercalate (first :: rest) = first ++ more :=
  ⟨_, intercalate_cons sep first rest⟩

/-- Texts that are joined with a separator in two portions. -/
theorem intercalate_append {sep : List Char} {xs ys : List (List Char)} (hxs : xs ≠ [])
    (hys : ys ≠ []) :
    sep.intercalate (xs ++ ys) = sep.intercalate xs ++ sep ++ sep.intercalate ys := by
  obtain ⟨x, xs, rfl⟩ := List.exists_cons_of_ne_nil hxs
  obtain ⟨y, ys, rfl⟩ := List.exists_cons_of_ne_nil hys
  rw [List.cons_append, intercalate_cons, intercalate_cons, intercalate_cons]
  simp only [List.flatMap_append, List.flatMap_cons, List.append_assoc]

/-- More text at the end of the last of several texts stands at the end of all of them. -/
theorem intercalate_concat_append {sep : List Char} (xs : List (List Char))
    (last more : List Char) :
    sep.intercalate (xs ++ [last ++ more]) = sep.intercalate (xs ++ [last]) ++ more := by
  by_cases hxs : xs = []
  · simp [hxs]
  · have hne : ∀ text : List Char, [text] ≠ [] := fun text => List.cons_ne_nil text []
    rw [intercalate_append hxs (hne _), intercalate_append hxs (hne _)]
    simp

/-- What is joined from texts consists of them and the separator. -/
theorem mem_of_mem_intercalate {c : Char} {sep : List Char} {texts : List (List Char)}
    (h : c ∈ sep.intercalate texts) : c ∈ sep ∨ ∃ text ∈ texts, c ∈ text := by
  cases texts with
  | nil => cases h
  | cons first rest =>
    rw [intercalate_cons, List.mem_append] at h
    rcases h with hfirst | hrest
    · exact .inr ⟨first, List.mem_cons_self .., hfirst⟩
    · obtain ⟨text, htext, hmem⟩ := List.mem_flatMap.mp hrest
      rcases List.mem_append.mp hmem with hsep | hmem
      · exact .inl hsep
      · exact .inr ⟨text, List.mem_cons_of_mem _ htext, hmem⟩

/-- The parts of two texts with a separator between them are those of each text. -/
theorem splitOn_append (sep : Char) (xs ys : List Char) :
    (xs ++ sep :: ys).splitOn sep = xs.splitOn sep ++ ys.splitOn sep := by
  induction xs with
  | nil => simp [List.splitOn_cons_eq_if_modifyHead]
  | cons x xs ih =>
    rw [List.cons_append, List.splitOn_cons_eq_if_modifyHead, List.splitOn_cons_eq_if_modifyHead,
      ih]
    split
    · rfl
    · obtain ⟨part, parts, hparts⟩ := List.exists_cons_of_ne_nil (List.splitOn_ne_nil sep xs)
      rw [hparts]
      rfl

/-- What stands in a part of a text stands in the text. -/
theorem mem_of_mem_splitOn {c sep : Char} {cs part : List Char} (hpart : part ∈ cs.splitOn sep)
    (hc : c ∈ part) : c ∈ cs := by
  have hsublist := intercalate_sublist [sep] (List.singleton_sublist.mpr hpart)
  rw [List.intercalate_singleton, List.intercalate_splitOn] at hsublist
  exact hsublist.subset hc

/-- No piece of a split text holds the separator. -/
theorem not_mem_of_mem_splitOn {sep : Char} {cs piece : List Char} (h : piece ∈ cs.splitOn sep) :
    sep ∉ piece := by
  induction cs generalizing piece with
  | nil =>
    rw [List.splitOn_nil, List.mem_singleton] at h
    rw [h]
    exact List.not_mem_nil
  | cons c cs ih =>
    rw [List.splitOn_cons_eq_if_modifyHead] at h
    split at h
    · rcases List.mem_cons.mp h with rfl | htail
      · exact List.not_mem_nil
      · exact ih htail
    · next hc =>
      -- The character goes to the front of the first piece of the rest.
      obtain ⟨first, rest, hpieces⟩ := List.exists_cons_of_ne_nil (List.splitOn_ne_nil sep cs)
      rw [hpieces, List.modifyHead_cons] at h
      rcases List.mem_cons.mp h with rfl | hrest
      · have hfirst := ih (hpieces ▸ List.mem_cons_self)
        rw [List.mem_cons, not_or]
        exact ⟨fun heq => hc (by rw [heq, beq_self_eq_true]), hfirst⟩
      · exact ih (hpieces ▸ List.mem_cons_of_mem first hrest)

/-- Texts that are trimmed and not empty make such a text when they are joined. -/
theorem trimmed_intercalate {sep : Char} (hsep : isBlank sep = false) {parts : List (List Char)}
    (hne : parts ≠ []) (hparts : ∀ part ∈ parts, part ≠ [] ∧ Trimmed part) :
    [sep].intercalate parts ≠ [] ∧ Trimmed ([sep].intercalate parts) := by
  induction parts with
  | nil => exact absurd rfl hne
  | cons part parts ih =>
    rw [List.forall_mem_cons] at hparts
    obtain ⟨⟨hpartNe, hpart⟩, hparts⟩ := hparts
    cases parts with
    | nil =>
      rw [List.intercalate_singleton]
      exact ⟨hpartNe, hpart⟩
    | cons next parts =>
      obtain ⟨hrestNe, hrest⟩ := ih (List.cons_ne_nil _ _) hparts
      have hsepTrimmed : Trimmed [sep] := trimmed_of_forall (by simpa using hsep)
      have hstart := hpart.append hsepTrimmed hpartNe (List.cons_ne_nil _ _)
      rw [List.intercalate_cons_cons]
      exact ⟨by simp, hstart.append hrest (by simp) hrestNe⟩

end QueryGate.Text
