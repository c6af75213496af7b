import QueryGate.Proofs.Brackets

/-!
# Text that is passed over

The searches for delimiters, for a sign and for a closing bracket read on in the same way until they
meet what they look for: a backslash and what it hides, brackets and everything inside them, and all
other characters are kept. A text that has nothing of what is looked for outside its brackets is
passed over as a whole, whatever follows it.
-/

namespace QueryGate.Brackets

open QueryGate.Text

/-- A text has no wanted character outside brackets, where some are open before it and some behind
it, and closes none that was not opened. -/
inductive Passes (wanted : Char → Bool) : Nat → List Char → Nat → Prop
  /-- Nothing is passed over. -/
  | nil (depth : Nat) : Passes wanted depth [] depth
  /-- A backslash hides a character. -/
  | escape {depth depth' : Nat} {cs : List Char} (c : Char)
      (hrest : Passes wanted depth cs depth') : Passes wanted depth ('\\' :: c :: cs) depth'
  /-- A bracket is opened. -/
  | opening {depth depth' : Nat} {cs : List Char} (hrest : Passes wanted (depth + 1) cs depth') :
      Passes wanted depth ('[' :: cs) depth'
  /-- A bracket that was opened is closed. -/
  | closing {depth depth' : Nat} {cs : List Char} (hrest : Passes wanted depth cs depth') :
      Passes wanted (depth + 1) (']' :: cs) depth'
  /-- Any other character is unwanted, or stands inside brackets. -/
  | plain {depth depth' : Nat} {c : Char} {cs : List Char} (hplain : textSigns.Plain c)
      (hunwanted : depth = 0 → wanted c = false) (hrest : Passes wanted depth cs depth') :
      Passes wanted depth (c :: cs) depth'

namespace Passes

variable {wanted other : Char → Bool} {depth depth' depth'' : Nat} {cs ds : List Char}

/-- Texts are passed over one after the other. -/
theorem append (hcs : Passes wanted depth cs depth') (hds : Passes wanted depth' ds depth'') :
    Passes wanted depth (cs ++ ds) depth'' := by
  induction hcs with
  | nil => exact hds
  | escape c _ ih => exact .escape c (ih hds)
  | opening _ ih => exact .opening (ih hds)
  | closing _ ih => exact .closing (ih hds)
  | plain hplain hunwanted _ ih => exact .plain hplain hunwanted (ih hds)

/-- Inside brackets nothing is wanted. -/
theorem inside (h : Passes other depth cs depth') :
    Passes wanted (depth + 1) cs (depth' + 1) := by
  induction h with
  | nil => exact .nil _
  | escape c _ ih => exact .escape c ih
  | opening _ ih => exact .opening ih
  | closing _ ih => exact .closing ih
  | plain hplain _ _ ih => exact .plain hplain nofun ih

/-- A text in brackets is passed over. -/
theorem bracketed (h : Passes other 0 cs 0) : Passes wanted 0 ('[' :: (cs ++ [']'])) 0 :=
  .opening (h.inside.append (.closing (.nil 0)))

/-- Characters that are neither signs nor wanted are passed over. -/
theorem of_forall (h : ∀ c ∈ cs, textSigns.Plain c ∧ wanted c = false) :
    Passes wanted 0 cs 0 := by
  induction cs with
  | nil => exact .nil 0
  | cons c cs ih =>
    rw [List.forall_mem_cons] at h
    exact .plain h.1.1 (fun _ => h.1.2) (ih h.2)

/-- Texts are passed over that are joined with a character that is neither a sign nor wanted. -/
theorem intercalate {sep : Char} (hplain : textSigns.Plain sep) (hunwanted : wanted sep = false)
    {parts : List (List Char)} (hparts : ∀ part ∈ parts, Passes wanted 0 part 0) :
    Passes wanted 0 ([sep].intercalate parts) 0 := by
  induction parts with
  | nil => exact .nil 0
  | cons part parts ih =>
    rw [List.forall_mem_cons] at hparts
    cases parts with
    | nil =>
      rw [List.intercalate_singleton]
      exact hparts.1
    | cons next parts =>
      rw [List.intercalate_cons_cons, List.append_assoc]
      exact hparts.1.append (.plain hplain (fun _ => hunwanted) (ih hparts.2))

end Passes

/-! ## Searches -/

/-- A search keeps what it passes over in front of what it finds. -/
structure Scans {α : Type} (wanted : Char → Bool)
    (scan : Nat → List Char → Except Nat (List Char × α)) : Prop where
  /-- A backslash is kept with what it hides. -/
  escape : ∀ depth c cs, scan depth ('\\' :: c :: cs) = keep ['\\', c] (scan depth cs)
  /-- An opening bracket is kept and counted. -/
  opening : ∀ depth cs, scan depth ('[' :: cs) = keep ['['] (scan (depth + 1) cs)
  /-- A closing bracket is kept and counted off. -/
  closing : ∀ depth cs, scan (depth + 1) (']' :: cs) = keep [']'] (scan depth cs)
  /-- Any other character is kept, unless it is wanted and stands outside brackets. -/
  plain : ∀ depth c cs, textSigns.Plain c → (depth = 0 → wanted c = false) →
    scan depth (c :: cs) = keep [c] (scan depth cs)

section Searches

variable {α : Type} {wanted : Char → Bool} {depth depth' : Nat}

/-- Nothing is kept in front of a result. -/
theorem keep_nil (result : Except Nat (List Char × α)) : keep [] result = result := by
  cases result with
  | ok found => rfl
  | error offset => exact congrArg Except.error (Nat.zero_add offset)

/-- Texts are kept in front of a result one after the other. -/
theorem keep_keep (cs ds : List Char) (result : Except Nat (List Char × α)) :
    keep cs (keep ds result) = keep (cs ++ ds) result := by
  cases result with
  | ok found => simp [keep, List.append_assoc]
  | error offset => simp [keep, byteLength_append, Nat.add_assoc]

/-- A search keeps a text that it passes over and goes on behind it. -/
theorem Scans.append {scan : Nat → List Char → Except Nat (List Char × α)} (h : Scans wanted scan)
    {cs : List Char} (hcs : Passes wanted depth cs depth') (rest : List Char) :
    scan depth (cs ++ rest) = keep cs (scan depth' rest) := by
  induction hcs with
  | nil => exact (keep_nil _).symm
  | escape c _ ih => rw [List.cons_append, List.cons_append, h.escape, ih, keep_keep]; rfl
  | opening _ ih => rw [List.cons_append, h.opening, ih, keep_keep]; rfl
  | closing _ ih => rw [List.cons_append, h.closing, ih, keep_keep]; rfl
  | plain hplain hunwanted _ ih =>
    rw [List.cons_append, h.plain _ _ _ hplain hunwanted, ih, keep_keep]
    rfl

/-- A character that is no sign, put for reference as the searches ask for it. -/
theorem ne_of_plain {c : Char} (h : textSigns.Plain c) : c ≠ '\\' ∧ c ≠ '[' ∧ c ≠ ']' := h

/-- A character that is no sign is a delimiter outside brackets or kept. -/
theorem splitFrom_of_plain (isDelimiter : Char → Bool) (depth : Nat) {c : Char}
    (hplain : textSigns.Plain c) (cs : List Char) :
    splitFrom isDelimiter depth (c :: cs) =
      if depth = 0 && isDelimiter c then
        match splitFrom isDelimiter depth cs with
        | .ok (first, others) => .ok ([], first :: others)
        | .error offset => .error (c.utf8Size + offset)
      else keep [c] (splitFrom isDelimiter depth cs) := by
  obtain ⟨hescape, hopening, hclosing⟩ := ne_of_plain hplain
  rw [splitFrom.eq_def]
  dsimp only
  rw [if_neg hescape, if_neg hopening]
  exact if_neg hclosing

/-- A character that is no sign is what a search looks for outside brackets or kept. -/
theorem findFrom_of_plain (needle : Char) (depth : Nat) {c : Char} (hplain : textSigns.Plain c)
    (cs : List Char) :
    findFrom needle depth (c :: cs) =
      if depth = 0 && c == needle then .ok ([], some cs)
      else keep [c] (findFrom needle depth cs) := by
  obtain ⟨hescape, hopening, hclosing⟩ := ne_of_plain hplain
  rw [findFrom.eq_def]
  dsimp only
  rw [if_neg hescape, if_neg hopening, if_neg hclosing]

/-- A character that is unwanted or stands inside brackets is not found. -/
theorem not_found {c : Char} (h : depth = 0 → wanted c = false) :
    ¬(decide (depth = 0) && wanted c) = true := by
  rw [Bool.and_eq_true, decide_eq_true_iff]
  rintro ⟨hdepth, hwanted⟩
  rw [h hdepth] at hwanted
  cases hwanted

/-- Cutting text keeps what has no delimiter outside brackets. -/
theorem scans_splitFrom (isDelimiter : Char → Bool) :
    Scans isDelimiter (splitFrom isDelimiter) where
  escape depth c cs := by rw [splitFrom.eq_def]; rfl
  opening depth cs := by rw [splitFrom.eq_def]; rfl
  closing depth cs := by rw [splitFrom.eq_def]; rfl
  plain depth c cs hplain hunwanted := by
    rw [splitFrom_of_plain _ _ hplain, if_neg (not_found hunwanted)]

/-- The search for a sign keeps what does not have it outside brackets. -/
theorem scans_findFrom (needle : Char) : Scans (· == needle) (findFrom needle) where
  escape depth c cs := by rw [findFrom.eq_def]; rfl
  opening depth cs := by rw [findFrom.eq_def]; rfl
  closing depth cs := by rw [findFrom.eq_def]; rfl
  plain depth c cs hplain hunwanted := by
    rw [findFrom_of_plain _ _ hplain]
    exact if_neg (not_found hunwanted)

/-- The search for a closing bracket keeps everything inside the bracket. -/
theorem scans_closeFrom : Scans (fun _ => false) closeFrom where
  escape depth c cs := by rw [closeFrom.eq_def]; rfl
  opening depth cs := by rw [closeFrom.eq_def]; rfl
  closing depth cs := by rw [closeFrom.eq_def]; rfl
  plain depth c cs hplain _ := by
    obtain ⟨hescape, hopening, hclosing⟩ := ne_of_plain hplain
    rw [closeFrom.eq_def]
    dsimp only
    rw [if_neg hescape, if_neg hopening, if_neg hclosing]

end Searches

/-! ## What the searches find -/

/-- Texts that are joined with a delimiter are cut apart again. -/
theorem split_intercalate {isDelimiter : Char → Bool} {delimiter : Char}
    (hdelimiter : isDelimiter delimiter = true) (hplain : textSigns.Plain delimiter)
    {parts : List (List Char)} (hne : parts ≠ [])
    (hparts : ∀ part ∈ parts, Passes isDelimiter 0 part 0) :
    split isDelimiter ([delimiter].intercalate parts) = .ok parts := by
  have hscans := scans_splitFrom isDelimiter
  rw [split_eq_ok_iff]
  induction parts with
  | nil => exact absurd rfl hne
  | cons part parts ih =>
    rw [List.forall_mem_cons] at hparts
    cases parts with
    | nil =>
      have hpart := hscans.append hparts.1 []
      rw [List.append_nil] at hpart
      rw [List.intercalate_singleton, hpart]
      exact ⟨part ++ [], [], rfl, by rw [List.append_nil]⟩
    | cons next parts =>
      obtain ⟨first, others, hfrom, hrest⟩ := ih (List.cons_ne_nil _ _) hparts.2
      rw [List.intercalate_cons_cons, List.append_assoc, hscans.append hparts.1,
        List.singleton_append, splitFrom_of_plain _ _ hplain, hdelimiter, hfrom]
      exact ⟨part ++ [], first :: others, rfl, by rw [List.append_nil, hrest]⟩

/-- The first sign outside brackets is found. -/
theorem find_append {needle : Char} (hplain : textSigns.Plain needle) {before : List Char}
    (hbefore : Passes (· == needle) 0 before 0) (rest : List Char) :
    find needle (before ++ needle :: rest) = .ok (some (before, rest)) := by
  have hhit : findFrom needle 0 (needle :: rest) = .ok ([], some rest) := by
    rw [findFrom_of_plain _ _ hplain, if_pos (by simp)]
  unfold find
  rw [(scans_findFrom needle).append hbefore, hhit]
  change Except.ok (some (before ++ [], rest)) = _
  rw [List.append_nil]

/-- A sign that stands nowhere outside brackets is not found. -/
theorem find_eq_none {needle : Char} {cs : List Char} (h : Passes (· == needle) 0 cs 0) :
    find needle cs = .ok none := by
  have hscan := (scans_findFrom needle).append h []
  rw [List.append_nil] at hscan
  unfold find
  rw [hscan]
  rfl

/-- A bracket that closes without being open is what the search for the partner of a bracket finds.
-/
theorem closeFrom_closing (rest : List Char) : closeFrom 0 (']' :: rest) = .ok ([], rest) := by
  rw [closeFrom.eq_def]
  rfl

/-- The partner of a bracket is found behind text that closes no bracket but its own. -/
theorem close_append {body : List Char} (h : Passes (fun _ => false) 0 body 0) (rest : List Char) :
    close (body ++ ']' :: rest) = .ok (body, rest) := by
  unfold close
  rw [scans_closeFrom.append h, closeFrom_closing]
  change Except.ok (body ++ [], rest) = _
  rw [List.append_nil]

/-! ## Where searches stop -/

/-- What a text begins with behind text that is passed over. -/
inductive Stuck (wanted : Char → Bool) : Nat → List Char → Prop
  /-- The text is at its end. -/
  | nil (depth : Nat) : Stuck wanted depth []
  /-- A backslash is left that hides nothing. -/
  | lone (depth : Nat) : Stuck wanted depth ['\\']
  /-- A bracket closes that was not opened. -/
  | closing (rest : List Char) : Stuck wanted 0 (']' :: rest)
  /-- A wanted character stands outside brackets. -/
  | wanted {c : Char} (hplain : textSigns.Plain c) (hwanted : wanted c = true)
      (rest : List Char) : Stuck wanted 0 (c :: rest)

/-- Every text is passed over up to where it is stuck. -/
theorem exists_passes (wanted : Char → Bool) (depth : Nat) (cs : List Char) :
    ∃ passed rest depth', cs = passed ++ rest ∧ Passes wanted depth passed depth' ∧
      Stuck wanted depth' rest := by
  -- An escape takes two steps at once, so the induction is on the length.
  induction hlength : cs.length using Nat.strongRecOn generalizing depth cs with
  | ind n ih =>
    cases cs with
    | nil => exact ⟨[], [], depth, rfl, .nil depth, .nil depth⟩
    | cons c cs =>
      rw [List.length_cons] at hlength
      have hnext : ∀ depth, ∃ passed rest depth', cs = passed ++ rest ∧
          Passes wanted depth passed depth' ∧ Stuck wanted depth' rest :=
        fun depth => ih cs.length (by omega) depth cs rfl
      by_cases hescape : c = '\\'
      · subst hescape
        cases cs with
        | nil => exact ⟨[], _, depth, rfl, .nil depth, .lone depth⟩
        | cons d cs =>
          rw [List.length_cons] at hlength
          obtain ⟨passed, rest, depth', rfl, hpasses, hstuck⟩ :=
            ih cs.length (by omega) depth cs rfl
          exact ⟨_, rest, depth', rfl, .escape d hpasses, hstuck⟩
      by_cases hopening : c = '['
      · subst hopening
        obtain ⟨passed, rest, depth', rfl, hpasses, hstuck⟩ := hnext (depth + 1)
        exact ⟨_, rest, depth', rfl, .opening hpasses, hstuck⟩
      by_cases hclosing : c = ']'
      · subst hclosing
        cases depth with
        | zero => exact ⟨[], _, 0, rfl, .nil 0, .closing cs⟩
        | succ depth =>
          obtain ⟨passed, rest, depth', rfl, hpasses, hstuck⟩ := hnext depth
          exact ⟨_, rest, depth', rfl, .closing hpasses, hstuck⟩
      have hplain : textSigns.Plain c := ⟨hescape, hopening, hclosing⟩
      by_cases hwanted : depth = 0 ∧ wanted c = true
      · obtain ⟨rfl, hwanted⟩ := hwanted
        exact ⟨[], _, 0, rfl, .nil 0, .wanted hplain hwanted cs⟩
      · have hunwanted : depth = 0 → wanted c = false := fun hdepth =>
          Bool.eq_false_iff.mpr fun hc => hwanted ⟨hdepth, hc⟩
        obtain ⟨passed, rest, depth', rfl, hpasses, hstuck⟩ := hnext depth
        exact ⟨_, rest, depth', rfl, .plain hplain hunwanted hpasses, hstuck⟩

/-- A bracket that closes without being open ends the cutting of a text. -/
theorem splitFrom_closing (isDelimiter : Char → Bool) (rest : List Char) :
    splitFrom isDelimiter 0 (']' :: rest) = .error 0 := by
  rw [splitFrom.eq_def]
  rfl

/-- A bracket that closes without being open ends the search for a sign. -/
theorem findFrom_closing (needle : Char) (rest : List Char) :
    findFrom needle 0 (']' :: rest) = .error 0 := by
  rw [findFrom.eq_def]
  rfl

/-- What the search for a sign finds parts the text at the sign. -/
theorem append_of_find {needle : Char} {cs before after : List Char}
    (h : find needle cs = .ok (some (before, after))) : cs = before ++ needle :: after := by
  obtain ⟨passed, rest, depth, rfl, hpasses, hstuck⟩ := exists_passes (· == needle) 0 cs
  unfold find at h
  rw [(scans_findFrom needle).append hpasses] at h
  cases hstuck with
  | nil => cases depth <;> cases h
  | lone => cases depth <;> cases h
  | closing rest =>
    rw [findFrom_closing] at h
    cases h
  | wanted hplain hwanted rest =>
    rw [findFrom_of_plain _ _ hplain, hwanted] at h
    cases h
    rw [List.append_nil, beq_iff_eq.mp hwanted]

/-- The partner of a bracket stands between what is found. -/
theorem append_of_close {cs body after : List Char} (h : close cs = .ok (body, after)) :
    cs = body ++ ']' :: after := by
  obtain ⟨passed, rest, depth, rfl, hpasses, hstuck⟩ := exists_passes (fun _ => false) 0 cs
  unfold close at h
  rw [scans_closeFrom.append hpasses] at h
  cases hstuck with
  | nil => cases h
  | lone => cases h
  | closing rest =>
    rw [closeFrom_closing] at h
    cases h
    rw [List.append_nil]
  | wanted _ hwanted => cases hwanted

end QueryGate.Brackets
