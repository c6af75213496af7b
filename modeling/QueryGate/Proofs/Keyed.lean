import Mathlib.Data.List.Basic

/-!
# Lists with keys

In a list whose items have keys, the item with a key is altered in its place, or a new one is
appended if there is none. Merging a list into another alters there what has its keys, one item
after the other. Altering an item before merging comes to the same as altering it afterwards, so
that a list may be put together in portions, each on its own.
-/

namespace QueryGate.Keyed

variable {α κ : Type} [DecidableEq κ]

/-- Alters the item with a key in its place, or appends a new one. -/
def alter (key : α → κ) (k : κ) (f : Option α → α) : List α → List α
  | [] => [f none]
  | x :: xs => if key x = k then f (some x) :: xs else x :: alter key k f xs

/-- Alters what has the keys of the later list, in order. -/
def merge (key : α → κ) (combine : α → Option α → α) (earlier later : List α) : List α :=
  later.foldl (fun xs x => alter key (key x) (combine x) xs) earlier

variable {key : α → κ} {k l : κ} {f g : Option α → α} {combine : α → Option α → α}

/-- The keys of a list with one item altered. -/
theorem map_key_alter (hf : ∀ old, key (f old) = k) (xs : List α) :
    (alter key k f xs).map key = if k ∈ xs.map key then xs.map key else xs.map key ++ [k] := by
  induction xs with
  | nil => simp [alter, hf]
  | cons x xs ih =>
    unfold alter
    by_cases hx : key x = k
    · simp [hx, hf]
    · have hne : ¬k = key x := fun he => hx he.symm
      rw [if_neg hx, List.map_cons, ih, List.map_cons]
      simp only [List.mem_cons, hne, false_or]
      split <;> rfl

/-- Keys stay distinct when an item is altered. -/
theorem nodup_map_key_alter (hf : ∀ old, key (f old) = k) {xs : List α}
    (h : (xs.map key).Nodup) : ((alter key k f xs).map key).Nodup := by
  rw [map_key_alter hf]
  split
  · exact h
  · next hnew =>
    rw [List.nodup_append]
    refine ⟨h, by simp, ?_⟩
    intro a ha b hb
    rw [List.mem_singleton.mp hb]
    exact fun he => hnew (he ▸ ha)

/-- The altered item has its key. -/
theorem mem_map_key_alter (hf : ∀ old, key (f old) = k) (xs : List α) :
    k ∈ (alter key k f xs).map key := by
  rw [map_key_alter hf]
  split
  · assumption
  · exact List.mem_append_right _ (List.mem_singleton_self k)

/-- An item of a list with one item altered is an old one, the new one or an altered one. -/
theorem mem_alter {x : α} {xs : List α} (h : x ∈ alter key k f xs) :
    x ∈ xs ∨ x = f none ∨ ∃ old ∈ xs, x = f (some old) := by
  induction xs with
  | nil => exact .inr (.inl (List.mem_singleton.mp h))
  | cons first xs ih =>
    unfold alter at h
    split at h
    · rcases List.mem_cons.mp h with hfirst | hrest
      · exact .inr (.inr ⟨first, List.mem_cons_self .., hfirst⟩)
      · exact .inl (List.mem_cons_of_mem _ hrest)
    · rcases List.mem_cons.mp h with rfl | hrest
      · exact .inl (List.mem_cons_self ..)
      · rcases ih hrest with hold | hnew | ⟨old, hmem, hx⟩
        · exact .inl (List.mem_cons_of_mem _ hold)
        · exact .inr (.inl hnew)
        · exact .inr (.inr ⟨old, List.mem_cons_of_mem _ hmem, hx⟩)

/-- Other keys stay when an item is altered. -/
theorem mem_map_key_alter_of_mem (hf : ∀ old, key (f old) = k) {xs : List α}
    (hl : l ∈ xs.map key) : l ∈ (alter key k f xs).map key := by
  rw [map_key_alter hf]
  split
  · exact hl
  · exact List.mem_append_left _ hl

/-- An item that is altered twice is altered once, by both. -/
theorem alter_alter (hf : ∀ old, key (f old) = k) (xs : List α) :
    alter key k g (alter key k f xs) = alter key k (fun old => g (some (f old))) xs := by
  induction xs with
  | nil => simp [alter, hf]
  | cons x xs ih =>
    by_cases hx : key x = k
    · simp [alter, hx, hf]
    · simp [alter, hx, ih]

/-- Items with different keys are altered in any order, if one of them is there before. -/
theorem alter_comm (hkl : k ≠ l) (hf : ∀ old, key (f old) = k) (hg : ∀ old, key (g old) = l)
    {xs : List α} (hk : k ∈ xs.map key) :
    alter key k f (alter key l g xs) = alter key l g (alter key k f xs) := by
  induction xs with
  | nil => cases hk
  | cons x xs ih =>
    by_cases hx : key x = k
    · have hxl : ¬key x = l := fun he => hkl (hx.symm.trans he)
      simp [alter, hx, hf, hkl]
    · by_cases hxl : key x = l
      · have hlk : ¬l = k := fun he => hkl he.symm
        simp [alter, hxl, hg, hlk]
      · rw [List.map_cons, List.mem_cons] at hk
        have hrest := ih (hk.resolve_left fun he => hx he.symm)
        simp [alter, hx, hxl, hrest]

/-- What is merged in under other keys may be merged in before an item is altered, if that item is
there before. -/
theorem merge_alter (hcombine : ∀ x old, key (combine x old) = key x)
    (hf : ∀ old, key (f old) = k) {earlier later : List α} (hk : k ∈ earlier.map key)
    (hlater : k ∉ later.map key) :
    alter key k f (merge key combine earlier later) =
      merge key combine (alter key k f earlier) later := by
  induction later generalizing earlier with
  | nil => rfl
  | cons x later ih =>
    rw [List.map_cons, List.mem_cons, not_or] at hlater
    have hthere : k ∈ (alter key (key x) (combine x) earlier).map key :=
      mem_map_key_alter_of_mem (hcombine x) hk
    change alter key k f (merge key combine (alter key (key x) (combine x) earlier) later) =
      merge key combine (alter key (key x) (combine x) (alter key k f earlier)) later
    rw [ih hthere hlater.2, alter_comm hlater.1 hf (hcombine x) hk]

/-- Altering an item of the later list comes to the same as altering it after the lists are merged,
if this is so for the item alone. -/
theorem merge_alter_later (hcombine : ∀ x old, key (combine x old) = key x)
    (hf : ∀ old, key (f old) = k) (hg : ∀ old, key (g old) = k)
    (hnew : ∀ old, combine (f none) old = g old) {later : List α} (hlater : (later.map key).Nodup)
    (hold : ∀ x ∈ later, ∀ old, combine (f (some x)) old = g (some (combine x old)))
    (earlier : List α) :
    merge key combine earlier (alter key k f later) =
      alter key k g (merge key combine earlier later) := by
  induction later generalizing earlier with
  | nil =>
    change alter key (key (f none)) (combine (f none)) earlier = alter key k g earlier
    rw [hf, show combine (f none) = g from funext hnew]
  | cons x later ih =>
    rw [List.map_cons, List.nodup_cons] at hlater
    rw [List.forall_mem_cons] at hold
    by_cases hx : key x = k
    · -- The item is altered first and what follows it has other keys.
      have hthere : k ∈ (alter key k (combine x) earlier).map key :=
        mem_map_key_alter (fun old => (hcombine x old).trans hx) earlier
      have hboth : combine (f (some x)) = fun old => g (some (combine x old)) := funext hold.1
      rw [alter, if_pos hx]
      change merge key combine (alter key (key (f (some x))) (combine (f (some x))) earlier) later =
        alter key k g (merge key combine (alter key (key x) (combine x) earlier) later)
      rw [hf, hx, hboth, merge_alter hcombine hg hthere (hx ▸ hlater.1),
        alter_alter fun old => (hcombine x old).trans hx]
    · rw [alter, if_neg hx]
      exact ih hlater.2 hold.2 (alter key (key x) (combine x) earlier)

/-- An item with a new key stands behind the others. -/
theorem alter_of_not_mem {xs : List α} (hk : k ∉ xs.map key) :
    alter key k f xs = xs ++ [f none] := by
  induction xs with
  | nil => rfl
  | cons x xs ih =>
    rw [List.map_cons, List.mem_cons, not_or] at hk
    rw [alter, if_neg fun hx => hk.1 hx.symm, ih hk.2]
    rfl

/-- Lists without common keys are merged one behind the other. -/
theorem merge_eq_append {earlier later : List α} (hnew : ∀ x ∈ later, combine x none = x)
    (hdistinct : ((earlier ++ later).map key).Nodup) :
    merge key combine earlier later = earlier ++ later := by
  induction later generalizing earlier with
  | nil => exact (List.append_nil earlier).symm
  | cons x later ih =>
    rw [List.forall_mem_cons] at hnew
    have hx : key x ∉ earlier.map key := by
      rw [List.map_append, List.nodup_append] at hdistinct
      intro hmem
      exact hdistinct.2.2 _ hmem _ (List.mem_cons_self ..) rfl
    have hmoved : earlier ++ x :: later = earlier ++ [x] ++ later := by simp
    rw [hmoved] at hdistinct ⊢
    change merge key combine (alter key (key x) (combine x) earlier) later = _
    rw [alter_of_not_mem hx, hnew.1, ih hnew.2 hdistinct]

/-- The keys of merged lists: those of the later list that are new stand behind those of the earlier
one. -/
theorem map_key_merge (hcombine : ∀ x old, key (combine x old) = key x) {later : List α}
    (hlater : (later.map key).Nodup) (earlier : List α) :
    (merge key combine earlier later).map key =
      earlier.map key ++ (later.map key).filter fun k => k ∉ earlier.map key := by
  induction later generalizing earlier with
  | nil => exact (List.append_nil _).symm
  | cons x later ih =>
    rw [List.map_cons, List.nodup_cons] at hlater
    change (merge key combine (alter key (key x) (combine x) earlier) later).map key = _
    rw [ih hlater.2, map_key_alter (hcombine x), List.map_cons, List.filter_cons]
    by_cases hx : key x ∈ earlier.map key
    · simp [hx]
    · have hrest : ((later.map key).filter fun k => k ∉ earlier.map key ++ [key x]) =
          (later.map key).filter fun k => k ∉ earlier.map key := by
        apply List.filter_congr
        intro k hk
        have hne : k ≠ key x := fun he => hlater.1 (he ▸ hk)
        simp [hne]
      rw [if_neg hx, hrest, if_pos (by simpa using hx), List.append_assoc, List.singleton_append]

/-- What a key leads to in a list with one item altered. -/
theorem find?_alter (hf : ∀ old, key (f old) = k) (xs : List α) :
    (alter key k f xs).find? (key · = l) =
      if k = l then some (f (xs.find? (key · = k))) else xs.find? (key · = l) := by
  induction xs with
  | nil =>
    by_cases hkl : k = l
    · simp [alter, hf, hkl]
    · simp [alter, hf, hkl]
  | cons x xs ih =>
    by_cases hx : key x = k
    · by_cases hkl : k = l
      · simp [alter, hx, hf, hkl]
      · simp [alter, hx, hf, hkl]
    · by_cases hxl : key x = l
      · have hkl : ¬k = l := fun he => hx (hxl.trans he.symm)
        have hlk : ¬l = k := fun he => hkl he.symm
        simp [alter, hxl, hkl, hlk]
      · simp [alter, hx, hxl, ih]

/-- What a key leads to in merged lists. -/
theorem find?_merge (hcombine : ∀ x old, key (combine x old) = key x) {later : List α}
    (hlater : (later.map key).Nodup) (earlier : List α) :
    (merge key combine earlier later).find? (key · = l) =
      match later.find? (key · = l) with
      | some x => some (combine x (earlier.find? (key · = l)))
      | none => earlier.find? (key · = l) := by
  induction later generalizing earlier with
  | nil => rfl
  | cons x later ih =>
    rw [List.map_cons, List.nodup_cons] at hlater
    change (merge key combine (alter key (key x) (combine x) earlier) later).find? _ = _
    rw [ih hlater.2, find?_alter (hcombine x)]
    by_cases hx : key x = l
    · have hnone : later.find? (key · = l) = none := by
        rw [List.find?_eq_none]
        intro y hy
        have hne : ¬key y = l := fun he => hlater.1 ((hx.trans he.symm) ▸ List.mem_map_of_mem hy)
        simpa using hne
      rw [hnone, List.find?_cons_of_pos (by simpa using hx), if_pos hx, hx]
    · rw [if_neg hx, List.find?_cons_of_neg (by simpa using hx)]

end QueryGate.Keyed
