import QueryGate.Proofs.OffsetScan

/-!
# Putting values together from bytes

The values of a list are put together byte by byte, without the backslashes that hide something in
them. A backslash hides one byte only, and the byte that it hides is kept whatever it is; as the
other bytes of the character are kept as well, every value consists of whole characters.
-/

namespace QueryGate.Offsets

open QueryGate.Text QueryGate.Brackets

/-- The values that have been put together from bytes. -/
structure Rebuilt where
  /-- The offset of the next byte. -/
  offset : Nat
  /-- The bytes of the value that is put together. -/
  current : List UInt8
  /-- The bytes of the values before. -/
  complete : List (List UInt8)

/-- One round in which values are put together. A backslash at the end stands for itself. -/
def rebuildRound {ε : Type} (delimiter : UInt8) (bs : List UInt8) (state : Rebuilt) :
    Checked ε (Turn Rebuilt (List (List UInt8))) :=
  match bs[state.offset]? with
  | none => .ok (.leave (state.complete ++ [state.current]))
  | some b =>
    if b = byteSigns.escape then
      .ok (.next { state with
        offset := bump bs (state.offset + 1)
        current := state.current ++ [bs[state.offset + 1]?.getD byteSigns.escape] })
    else if b = delimiter then
      .ok (.next ⟨state.offset + 1, [], state.complete ++ [state.current]⟩)
    else .ok (.next { state with
      offset := state.offset + 1
      current := state.current ++ [b] })

/-- The values of a text between the delimiters that no backslash hides, without the backslashes. -/
def unescapedParts {ε : Type} (delimiter : UInt8) (text : String) : Checked ε (List String) := do
  let values ← loop (rebuildRound delimiter (bytes text)) ((bytes text).length + 1) ⟨0, [], []⟩
  values.mapM textOf

/-! ## Values as bytes -/

variable {ε : Type} {delimiter : UInt8} {c : Char} {bs : List UInt8} {offset : Nat}

/-- A byte that stands for a character is only the first byte of a character. -/
theorem ne_of_mem_more {b first : UInt8} {d : Char} {more : List UInt8} (h : Marks b c)
    (hbytes : String.utf8EncodeChar d = first :: more) : ∀ m ∈ more, m ≠ b := by
  rintro m hm rfl
  have hd : d = c := h.eq_of_mem d (hbytes ▸ List.mem_cons_of_mem first hm)
  rw [hd, h.encode_eq, List.cons.injEq] at hbytes
  rw [← hbytes.2] at hm
  cases hm

/-- Bytes that are neither backslashes nor delimiters are put behind the value that is put together.
-/
theorem ends_copied {copied rest current : List UInt8} {complete : List (List UInt8)}
    {result : Checked ε (List (List UInt8))}
    (hcopied : ∀ b ∈ copied, b ≠ byteSigns.escape ∧ b ≠ delimiter)
    (hat : At bs offset (copied ++ rest))
    (hends : Ends (rebuildRound delimiter bs) rest.length
      ⟨offset + copied.length, current ++ copied, complete⟩ result) :
    Ends (rebuildRound delimiter bs) (copied ++ rest).length ⟨offset, current, complete⟩
      result := by
  induction copied generalizing offset current with
  | nil => rwa [List.append_nil] at hends
  | cons b copied ih =>
    rw [List.forall_mem_cons] at hcopied
    have hround : (rebuildRound delimiter bs ⟨offset, current, complete⟩ :
        Checked ε (Turn Rebuilt (List (List UInt8)))) =
        .ok (.next ⟨offset + 1, current ++ [b], complete⟩) := by
      unfold rebuildRound
      rw [hat.getElem?_eq]
      dsimp only [List.cons_append, List.head?_cons]
      rw [if_neg hcopied.1.1, if_neg hcopied.1.2]
    refine .next hround (Nat.lt_succ_self _) (ih hcopied.2 hat.tail ?_)
    rw [List.append_assoc, List.singleton_append, Nat.add_assoc, Nat.add_comm 1]
    exact hends

/-- Values as bytes, of which the first has bytes in front of it that were put together before. -/
def resumed (current : List UInt8) (values : List (List Char)) : List (List UInt8) :=
  (values.map encode).modifyHead (current ++ ·)

/-- Nothing was put together before. -/
theorem resumed_nil (values : List (List Char)) : resumed [] values = values.map encode := by
  cases values <;> rfl

/-- A value that ends at once is what was put together before. -/
theorem resumed_nil_cons (current : List UInt8) (values : List (List Char)) :
    resumed current ([] :: values) = current :: values.map encode :=
  congrArg (· :: values.map encode) (List.append_nil current)

/-- A character in front of the first value is put behind what was put together before. -/
theorem resumed_modifyHead (current : List UInt8) (d : Char) (values : List (List Char)) :
    resumed current (values.modifyHead (d :: ·)) =
      resumed (current ++ String.utf8EncodeChar d) values := by
  cases values with
  | nil => rfl
  | cons value values =>
    change (current ++ (String.utf8EncodeChar d ++ encode value)) :: _ =
      (current ++ String.utf8EncodeChar d ++ encode value) :: _
    rw [List.append_assoc]

/-- The values that are put together are those of the characters from there on. -/
theorem ends_rebuild (hdelimiter : Marks delimiter c) (cs : List Char) (current : List UInt8)
    (complete : List (List UInt8)) (hat : At bs offset (encode cs)) :
    Ends (rebuildRound delimiter bs) (encode cs).length ⟨offset, current, complete⟩
      (.ok (complete ++ resumed current (Brackets.unescapedParts c cs)) :
        Checked ε (List (List UInt8))) := by
  fun_induction Brackets.unescapedParts c cs generalizing offset current complete with
  | case1 =>
    change Ends _ _ _ (.ok (complete ++ [current ++ []]))
    rw [List.append_nil]
    refine .leave ?_
    unfold rebuildRound
    rw [hat.getElem?_eq]
    rfl
  | case2 =>
    rw [encode_escape] at hat ⊢
    have hround : (rebuildRound delimiter bs ⟨offset, current, complete⟩ :
        Checked ε (Turn Rebuilt (List (List UInt8)))) =
        .ok (.next ⟨offset + 1, current ++ [byteSigns.escape], complete⟩) := by
      unfold rebuildRound
      rw [hat.getElem?_eq, hat.tail.getElem?_eq, hat.tail.bump_nil]
      rfl
    refine .next hround Nat.one_pos (.leave ?_)
    unfold rebuildRound
    rw [hat.tail.getElem?_eq]
    rfl
  | case3 d cs ih =>
    obtain ⟨b, more, hbytes⟩ := List.exists_cons_of_ne_nil (String.utf8EncodeChar_ne_nil (c := d))
    rw [encode_escape, encode_cons, hbytes, List.cons_append] at hat ⊢
    have hround : (rebuildRound delimiter bs ⟨offset, current, complete⟩ :
        Checked ε (Turn Rebuilt (List (List UInt8)))) =
        .ok (.next ⟨offset + 1 + 1, current ++ [b], complete⟩) := by
      unfold rebuildRound
      rw [hat.getElem?_eq, hat.tail.getElem?_eq, hat.tail.bump_cons]
      rfl
    -- The backslash hides the first byte only; the others are copied as they are.
    have hmore : ∀ m ∈ more, m ≠ byteSigns.escape ∧ m ≠ delimiter := fun m hm =>
      ⟨ne_of_mem_more marks_escape hbytes m hm, ne_of_mem_more hdelimiter hbytes m hm⟩
    refine .next hround (Nat.lt_add_of_pos_right (by decide) : _ < _ + 2)
      (ends_copied hmore hat.tail.tail ?_)
    rw [resumed_modifyHead, hbytes, List.append_assoc, List.singleton_append]
    exact ih _ _ hat.tail.tail.pass
  | case4 cs hescape ih =>
    rw [encode_cons_of_marks hdelimiter] at hat ⊢
    have hplain : delimiter ≠ byteSigns.escape := by
      rintro rfl
      exact hescape (marks_escape.eq_of_mem c (hdelimiter.encode_eq ▸ List.mem_singleton_self _))
    have hround : (rebuildRound delimiter bs ⟨offset, current, complete⟩ :
        Checked ε (Turn Rebuilt (List (List UInt8)))) =
        .ok (.next ⟨offset + 1, [], complete ++ [current]⟩) := by
      unfold rebuildRound
      rw [hat.getElem?_eq]
      dsimp only [List.head?_cons]
      rw [if_neg hplain, if_pos rfl]
    have hrest := ih [] (complete ++ [current]) hat.tail
    rw [resumed_nil, List.append_assoc] at hrest
    refine .next hround (Nat.lt_succ_self _) ?_
    rw [resumed_nil_cons]
    exact hrest
  | case5 d cs hescape hkept ih =>
    rw [encode_cons] at hat ⊢
    have hcopied : ∀ b ∈ String.utf8EncodeChar d, b ≠ byteSigns.escape ∧ b ≠ delimiter := by
      intro b hb
      constructor
      · rintro rfl
        exact hescape (marks_escape.eq_of_mem d hb)
      · rintro rfl
        exact hkept (hdelimiter.eq_of_mem d hb)
    rw [resumed_modifyHead]
    exact ends_copied hcopied hat (ih _ _ hat.pass)

/-- The values that are put together from bytes are the values among the characters. -/
theorem unescapedParts_eq (hc : c.toNat < 128) (text : String) :
    (unescapedParts (ascii c) text : Checked ε (List String)) =
      .ok ((Brackets.unescapedParts c text.toList).map String.ofList) := by
  have hends : Ends (rebuildRound (ascii c) (bytes text)) (bytes text).length ⟨0, [], []⟩
      (.ok ((Brackets.unescapedParts c text.toList).map encode) :
        Checked ε (List (List UInt8))) := by
    rw [bytes_eq_encode, ← resumed_nil, ← List.nil_append (resumed _ _)]
    exact ends_rebuild (marks_ofNat c hc) text.toList [] [] (.start _)
  have htexts : ∀ values : List (List Char), ((values.map encode).mapM textOf :
      Checked ε (List String)) = .ok (values.map String.ofList) := by
    intro values
    induction values with
    | nil => rfl
    | cons value values ih =>
      rw [List.map_cons, List.mapM_cons, textOf_encode, ih]
      rfl
  unfold unescapedParts
  rw [hends _ (Nat.lt_succ_self _)]
  exact htexts _

end QueryGate.Offsets
