import QueryGate.Proofs.Bytes
import QueryGate.Proofs.SegmentSpan

/-!
# Reading by offsets

Text can be read through a cursor over its bytes, and its parts can be taken out by byte offsets.
Much can go wrong that way: offsets may be out of order, lie behind the end of the text or inside a
character, a count may fall below zero, a loop may go on forever, and bytes that are put together
may be no text. Every step is written here so that it breaks off with a fault in such a case.
-/

namespace QueryGate.Offsets

open QueryGate.Text

/-- What reading by offsets must never do. -/
inductive Fault where
  /-- Takes a part out of a text whose offsets are out of order or beyond the end of the text, or of
  which one lies inside a character. -/
  | part (start stop : Nat)
  /-- Counts off a bracket where none is open. -/
  | depth
  /-- Goes on with a loop after its last round. -/
  | rounds
  /-- Takes bytes for a text that are none. -/
  | bytes
  deriving DecidableEq, Repr

/-- Why reading by offsets stops: a fault of its own, or an error in what is read. -/
inductive Stop (ε : Type) where
  /-- A step broke off. -/
  | fault (fault : Fault)
  /-- The text is wrong. -/
  | error (error : ε)
  deriving DecidableEq

/-- The result of a step that may break off with a fault. -/
abbrev Checked (ε α : Type) := Except (Stop ε) α

variable {ε ε' α β σ : Type}

/-- A result of steps that cannot break off. -/
def faultless (result : Except ε α) : Checked ε α :=
  result.mapError Stop.error

/-- Another wording of the errors in what is read; faults stay as they are. -/
def Stop.reword (f : ε → ε') : Stop ε → Stop ε'
  | .fault cause => .fault cause
  | .error cause => .error (f cause)

/-- A step that has given a result is followed by the next one. -/
theorem ok_bind (a : α) (next : α → Checked ε β) :
    ((.ok a : Checked ε α) >>= next) = next a := rfl

/-- Steps that cannot break off do not break off one after the other. -/
theorem faultless_bind (result : Except ε α) (next : α → Except ε β) :
    faultless (result >>= next) = faultless result >>= fun a => faultless (next a) := by
  cases result <;> rfl

/-- Wording errors differently makes no fault. -/
theorem mapError_faultless (f : ε → ε') (result : Except ε α) :
    (faultless result).mapError (Stop.reword f) = faultless (result.mapError f) := by
  cases result <;> rfl

/-- A result of steps that cannot break off is no fault. -/
theorem faultless_ne_fault (result : Except ε α) (fault : Fault) :
    faultless result ≠ .error (.fault fault) := by
  cases result <;> simp [faultless, Except.mapError]

/-- Steps that are taken for every item do not break off if none of them does. -/
theorem mapM_faultless {f : α → Checked ε β} {g : α → Except ε β} {xs : List α}
    (h : ∀ x ∈ xs, f x = faultless (g x)) : xs.mapM f = faultless (xs.mapM g) := by
  induction xs with
  | nil => rfl
  | cons x xs ih =>
    rw [List.forall_mem_cons] at h
    rw [List.mapM_cons, List.mapM_cons, faultless_bind, h.1, ih h.2]
    refine bind_congr fun y => ?_
    rw [faultless_bind]
    rfl

/-- A run over a list does not break off if none of its steps does. -/
theorem foldlM_faultless {f : β → α → Checked ε β} {g : β → α → Except ε β}
    (h : ∀ b x, f b x = faultless (g b x)) (b : β) (xs : List α) :
    xs.foldlM f b = faultless (xs.foldlM g b) := by
  induction xs generalizing b with
  | nil => rfl
  | cons x xs ih =>
    rw [List.foldlM_cons, List.foldlM_cons, faultless_bind, h]
    exact bind_congr fun b' => ih b'

/-! ## Loops -/

/-- What a loop does after a round. -/
inductive Turn (σ α : Type) where
  /-- The loop goes on from here. -/
  | next (state : σ)
  /-- The loop is left. -/
  | leave (result : α)

/-- Takes rounds until the loop is left, which has to happen in the last round if not before. -/
def loop (round : σ → Checked ε (Turn σ α)) : Nat → σ → Checked ε α
  | 0, _ => .error (.fault .rounds)
  | rounds + 1, state =>
    match round state with
    | .error stop => .error stop
    | .ok (.next state) => loop round rounds state
    | .ok (.leave result) => .ok result

/-- From a state on a loop ends with a result, if it has more rounds than this. -/
def Ends (round : σ → Checked ε (Turn σ α)) (rounds : Nat) (state : σ) (result : Checked ε α) :
    Prop :=
  ∀ more, rounds < more → loop round more state = result

namespace Ends

variable {round : σ → Checked ε (Turn σ α)} {rounds left : Nat} {state state' : σ}
  {result : Checked ε α}

/-- A round that goes on takes one of the rounds. -/
theorem next (hround : round state = .ok (.next state')) (hrounds : left < rounds)
    (h : Ends round left state' result) : Ends round rounds state result := by
  intro more hmore
  obtain ⟨less, rfl⟩ := Nat.exists_eq_add_of_lt hmore
  rw [loop, hround]
  exact h _ (by omega)

/-- A loop ends in the round in which it is left. -/
theorem leave {a : α} (hround : round state = .ok (.leave a)) :
    Ends round rounds state (.ok a) := by
  intro more hmore
  obtain ⟨less, rfl⟩ := Nat.exists_eq_add_of_lt hmore
  rw [loop, hround]

/-- A loop ends in the round that stops. -/
theorem stop {stop : Stop ε} (hround : round state = .error stop) :
    Ends round rounds state (.error stop) := by
  intro more hmore
  obtain ⟨less, rfl⟩ := Nat.exists_eq_add_of_lt hmore
  rw [loop, hround]

end Ends

/-! ## Offsets -/

/-- An offset among bytes stands before the rest of them. -/
structure At (bs : List UInt8) (offset : Nat) (rest : List UInt8) : Prop where
  /-- The rest is what is left behind the offset. -/
  drop_eq : bs.drop offset = rest
  /-- The offset is not beyond the end. -/
  length_eq : offset + rest.length = bs.length

namespace At

variable {bs rest passed : List UInt8} {offset : Nat} {b : UInt8}

/-- The first offset stands before all bytes. -/
theorem start (bs : List UInt8) : At bs 0 bs :=
  ⟨List.drop_zero, Nat.zero_add _⟩

/-- The byte at an offset is the first of the rest. -/
theorem getElem?_eq (h : At bs offset rest) : bs[offset]? = rest.head? := by
  rw [← List.head?_drop, h.drop_eq]

/-- Behind bytes that were passed over the offset has grown by their number. -/
theorem pass (h : At bs offset (passed ++ rest)) : At bs (offset + passed.length) rest := by
  constructor
  · rw [← List.drop_drop, h.drop_eq, List.drop_left]
  · rw [Nat.add_assoc, ← List.length_append, h.length_eq]

/-- Behind one byte the offset has grown by one. -/
theorem tail (h : At bs offset (b :: rest)) : At bs (offset + 1) rest := by
  rw [← List.singleton_append] at h
  exact h.pass

end At

/-- The offset behind the byte at an offset, if there is one. -/
def bump (bs : List UInt8) (offset : Nat) : Nat :=
  if offset < bs.length then offset + 1 else offset

/-- There is a byte before the end. -/
theorem At.bump_cons {bs rest : List UInt8} {offset : Nat} {b : UInt8}
    (h : At bs offset (b :: rest)) : bump bs offset = offset + 1 := by
  have hlength := h.length_eq
  rw [List.length_cons] at hlength
  exact if_pos (by omega)

/-- At the end an offset grows no more. -/
theorem At.bump_nil {bs : List UInt8} {offset : Nat} (h : At bs offset []) :
    bump bs offset = offset := by
  have hlength := h.length_eq
  rw [List.length_nil] at hlength
  exact if_neg (by omega)

/-! ## Parts -/

/-- The text that bytes are. -/
def textOf (bs : List UInt8) : Checked ε String :=
  match ofBytes? bs with
  | some text => .ok text
  | none => .error (.fault .bytes)

/-- The part of a text between two offsets. Both have to lie between characters. -/
def part (text : String) (start stop : Nat) : Checked ε String :=
  if String.Pos.Raw.isValid text ⟨start⟩ && String.Pos.Raw.isValid text ⟨stop⟩ then
    match (Query.slice? (bytes text) start stop).bind ofBytes? with
    | some found => .ok found
    | none => .error (.fault (.part start stop))
  else .error (.fault (.part start stop))

/-- The bytes of a text are that text. -/
theorem textOf_encode (cs : List Char) : (textOf (encode cs) : Checked ε String) =
    .ok (String.ofList cs) := by
  unfold textOf
  rw [← bytes_ofList, ofBytes?_bytes]

/-- A text has as many bytes as its characters take. -/
theorem length_encode (cs : List Char) : (encode cs).length = byteLength cs := by
  induction cs with
  | nil => rfl
  | cons c cs ih =>
    change (String.utf8EncodeChar c ++ encode cs).length = c.utf8Size + byteLength cs
    rw [List.length_append, String.length_utf8EncodeChar, ih]

/-- The offset behind some of the characters of a text lies between characters. -/
theorem isValid_byteLength {text : String} {before after : List Char}
    (htext : text.toList = before ++ after) :
    String.Pos.Raw.isValid text ⟨byteLength before⟩ = true := by
  rw [String.Pos.Raw.isValid_eq_true_iff, String.Pos.Raw.isValid_iff_exists_append]
  refine ⟨String.ofList before, String.ofList after, ?_, ?_⟩
  · rw [← String.ofList_append, ← htext, String.ofList_toList]
  · have hsize : (String.ofList before).utf8ByteSize = byteLength before := by
      rw [← byteLength_toList, String.toList_ofList]
    rw [String.Pos.Raw.ext_iff, String.byteIdx_rawEndPos, hsize]

/-- An offset lies between characters if it is behind some of the characters of the text. -/
theorem isValid_iff {text : String} {offset : Nat} :
    String.Pos.Raw.isValid text ⟨offset⟩ = true ↔
      ∃ before after, text.toList = before ++ after ∧ offset = byteLength before := by
  constructor
  · intro h
    rw [String.Pos.Raw.isValid_eq_true_iff, String.Pos.Raw.isValid_iff_exists_append] at h
    obtain ⟨before, after, htext, hoffset⟩ := h
    rw [String.Pos.Raw.ext_iff, String.byteIdx_rawEndPos, ← byteLength_toList] at hoffset
    exact ⟨before.toList, after.toList, by rw [htext, String.toList_append], hoffset⟩
  · rintro ⟨before, after, htext, rfl⟩
    exact isValid_byteLength htext

/-- Some characters in a row are a part of a text. -/
theorem part_eq {text : String} {before middle after : List Char}
    (htext : text.toList = before ++ (middle ++ after)) :
    (part text (byteLength before) (byteLength before + byteLength middle) : Checked ε String) =
      .ok (String.ofList middle) := by
  have hstart := isValid_byteLength htext
  have hstop : String.Pos.Raw.isValid text ⟨byteLength before + byteLength middle⟩ = true := by
    rw [← byteLength_append]
    exact isValid_byteLength (by rw [htext, List.append_assoc])
  have hbytes : bytes text = encode before ++ (encode middle ++ encode after) := by
    rw [bytes_eq_encode, htext, encode_append, encode_append]
  have hdrop : (bytes text).drop (byteLength before) = encode middle ++ encode after := by
    rw [hbytes, ← length_encode, List.drop_left]
  have hinside : byteLength before ≤ (bytes text).length := by
    rw [hbytes, List.length_append, length_encode]
    omega
  have hslice := Query.slice?_of_drop hdrop hinside
  have hread : ofBytes? (encode middle) = some (String.ofList middle) := by
    rw [← bytes_ofList, ofBytes?_bytes]
  unfold part
  rw [hstart, hstop, ← length_encode middle, hslice, Option.bind_some, hread]
  rfl

/-- A part is taken out of a text exactly if its offsets are in order and lie between characters. -/
theorem exists_part_iff {text : String} {start stop : Nat} :
    (∃ found, (part text start stop : Checked ε String) = .ok found) ↔
      start ≤ stop ∧ String.Pos.Raw.isValid text ⟨start⟩ = true ∧
        String.Pos.Raw.isValid text ⟨stop⟩ = true := by
  constructor
  · rintro ⟨found, hpart⟩
    unfold part at hpart
    split at hpart
    · next hvalid =>
      rw [Bool.and_eq_true] at hvalid
      refine ⟨?_, hvalid⟩
      by_contra hreversed
      have hslice : Query.slice? (bytes text) start stop = none := by
        unfold Query.slice?
        rw [decide_eq_false hreversed]
        rfl
      rw [hslice] at hpart
      cases hpart
    · cases hpart
  · rintro ⟨hle, hstart, hstop⟩
    obtain ⟨before, rest, htext, rfl⟩ := isValid_iff.mp hstart
    obtain ⟨upTo, after, hupTo, rfl⟩ := isValid_iff.mp hstop
    have hprefix : before <+: upTo := by
      have hwithin : upTo <+: text.toList := ⟨after, hupTo.symm⟩
      rcases List.prefix_or_prefix_of_prefix ⟨rest, htext.symm⟩ hwithin with h | ⟨more, rfl⟩
      · exact h
      · rw [byteLength_append] at hle
        cases more with
        | nil => exact ⟨[], by rw [List.append_nil, List.append_nil]⟩
        | cons c more =>
          have hc := c.utf8Size_pos
          change _ + (c.utf8Size + byteLength more) ≤ _ at hle
          omega
    obtain ⟨middle, rfl⟩ := hprefix
    rw [byteLength_append]
    exact ⟨_, part_eq (by rw [hupTo, List.append_assoc])⟩

/-- The characters behind some others are a part of a text. -/
theorem part_end {text : String} {before after : List Char}
    (htext : text.toList = before ++ after) :
    (part text (byteLength before) text.utf8ByteSize : Checked ε String) =
      .ok (String.ofList after) := by
  have hsize : text.utf8ByteSize = byteLength before + byteLength after := by
    rw [← byteLength_toList, htext, byteLength_append]
  have hnothing : text.toList = before ++ (after ++ []) := by rw [htext, List.append_nil]
  rw [hsize]
  exact part_eq hnothing

/-- The characters before a sign are a part of a text. -/
theorem part_before {text : String} {before after : List Char} {sign : Char}
    (htext : text.toList = before ++ sign :: after) :
    (part text 0 (byteLength before) : Checked ε String) = .ok (String.ofList before) := by
  have hnothing : text.toList = [] ++ (before ++ sign :: after) := htext
  have hstop : 0 + byteLength before = byteLength before := Nat.zero_add _
  rw [← hstop]
  exact part_eq hnothing

/-- The characters behind a sign of one byte are a part of a text. -/
theorem part_behind {text : String} {before after : List Char} {sign : Char}
    (hsign : sign.utf8Size = 1) (htext : text.toList = before ++ sign :: after) :
    (part text (byteLength before + 1) text.utf8ByteSize : Checked ε String) =
      .ok (String.ofList after) := by
  have hsize : byteLength (before ++ [sign]) = byteLength before + 1 := by
    rw [byteLength_append]
    exact congrArg _ hsign
  have hbehind : text.toList = (before ++ [sign]) ++ after := by
    rw [htext, List.append_assoc, List.singleton_append]
  rw [← hsize]
  exact part_end hbehind

end QueryGate.Offsets
