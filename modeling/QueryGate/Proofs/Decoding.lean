import QueryGate.Proofs.Percent

/-!
# Decoding is exact

Percent-encoded text is a row of units: bytes other than `%` that stand for themselves, and escapes.
Decoding gives a text exactly when the component is a row of units that mean the bytes of the text,
so it is undone by escaping any choice of bytes that leaves no `%` out. It may as well be done in
two passes, of which the first only looks at the escapes and the second resolves them without
complaint.
-/

namespace QueryGate.Query

open QueryGate.Text

/-! ## Hexadecimal digits -/

/-- A hexadecimal digit. -/
structure HexDigit where
  /-- The value of the digit. -/
  value : Fin 16
  /-- Whether it is a capital letter, if it is a letter. -/
  capital : Bool

/-- The byte that the digit is written as. -/
def HexDigit.byte (digit : HexDigit) : UInt8 :=
  let small := Nat.digitChar digit.value
  UInt8.ofNat (if digit.capital then small.toUpper else small).toNat

/-- Every digit is read as its value. -/
theorem HexDigit.hexValue?_byte (digit : HexDigit) :
    hexValue? (Char.ofUInt8 digit.byte) = some digit.value.val := by
  obtain ⟨value, capital⟩ := digit
  revert value capital
  decide

/-- A byte is read as a hexadecimal value exactly when it is a digit of this value. -/
theorem hexValue?_eq_some_iff {b : UInt8} {n : Nat} :
    hexValue? (Char.ofUInt8 b) = some n ↔ ∃ digit : HexDigit, digit.byte = b ∧ digit.value = n := by
  constructor
  · -- Every byte that has a value is found among the digits.
    have hbytes : ∀ code < 256, ∀ m ∈ hexValue? (Char.ofUInt8 (UInt8.ofNat code)),
        ∃ value : Fin 16, ∃ capital : Bool,
          (HexDigit.mk value capital).byte = UInt8.ofNat code ∧ value = m := by
      decide +kernel
    intro h
    have hcode := hbytes b.toNat b.toNat_lt n
    rw [UInt8.ofNat_toNat] at hcode
    obtain ⟨value, capital, hbyte, hvalue⟩ := hcode h
    exact ⟨⟨value, capital⟩, hbyte, hvalue⟩
  · rintro ⟨digit, rfl, rfl⟩
    exact digit.hexValue?_byte

/-- The byte that two digits mean together. -/
def HexDigit.together (high low : HexDigit) : UInt8 :=
  UInt8.ofNat (16 * high.value + low.value)

/-- Two bytes are read as an escaped byte by way of their values. -/
theorem escapedByte?_eq (hi lo : UInt8) :
    escapedByte? hi lo = (hexValue? (Char.ofUInt8 hi)).bind fun high =>
      (hexValue? (Char.ofUInt8 lo)).map fun low => UInt8.ofNat (16 * high + low) := by
  unfold escapedByte? hexNumber?
  rw [List.mapM_cons, List.mapM_cons, List.mapM_nil]
  cases hexValue? (Char.ofUInt8 hi) with
  | none => rfl
  | some high =>
    cases hexValue? (Char.ofUInt8 lo) with
    | none => rfl
    | some low =>
      change some (UInt8.ofNat (16 * (16 * 0 + high) + low)) = some (UInt8.ofNat (16 * high + low))
      rw [Nat.mul_zero, Nat.zero_add]

/-- Two bytes are read as an escaped byte exactly when they are digits that mean it. -/
theorem escapedByte?_eq_some_iff {hi lo b : UInt8} :
    escapedByte? hi lo = some b ↔
      ∃ high low : HexDigit, high.byte = hi ∧ low.byte = lo ∧ high.together low = b := by
  rw [escapedByte?_eq]
  constructor
  · intro h
    obtain ⟨_, hhi, h⟩ := Option.bind_eq_some_iff.mp h
    obtain ⟨_, hlo, rfl⟩ := Option.map_eq_some_iff.mp h
    obtain ⟨high, hhigh, rfl⟩ := hexValue?_eq_some_iff.mp hhi
    obtain ⟨low, hlow, rfl⟩ := hexValue?_eq_some_iff.mp hlo
    exact ⟨high, low, hhigh, hlow, rfl⟩
  · rintro ⟨high, low, rfl, rfl, rfl⟩
    rw [high.hexValue?_byte, Option.bind_some, low.hexValue?_byte]
    rfl

/-! ## Units -/

/-- A unit of percent-encoded text. -/
inductive PercentUnit where
  /-- A byte other than `%`, which stands for itself. -/
  | plain (b : UInt8) (hb : b ≠ percentSign)
  /-- A `%` and two hexadecimal digits, which stand for the byte that they mean. -/
  | escape (high low : HexDigit)

namespace PercentUnit

/-- The bytes of the unit. -/
def written : PercentUnit → List UInt8
  | plain b _ => [b]
  | escape high low => [percentSign, high.byte, low.byte]

/-- The byte that the unit stands for. -/
def meant : PercentUnit → UInt8
  | plain b _ => b
  | escape high low => high.together low

end PercentUnit

/-- Bytes spell others exactly when they can be read from left to right as units that stand for
these. -/
theorem spells_iff_exists_units {raw meant : List UInt8} :
    Spells raw meant ↔ ∃ units : List PercentUnit,
      raw = units.flatMap PercentUnit.written ∧ meant = units.map PercentUnit.meant := by
  constructor
  · intro h
    induction h with
    | nil => exact ⟨[], rfl, rfl⟩
    | @plain b _ _ hb _ ih =>
      obtain ⟨units, rfl, rfl⟩ := ih
      exact ⟨.plain b hb :: units, rfl, rfl⟩
    | escape hb _ ih =>
      obtain ⟨units, rfl, rfl⟩ := ih
      obtain ⟨high, low, rfl, rfl, rfl⟩ := escapedByte?_eq_some_iff.mp hb
      exact ⟨.escape high low :: units, rfl, rfl⟩
  · rintro ⟨units, rfl, rfl⟩
    induction units with
    | nil => exact .nil
    | cons unit units ih =>
      cases unit with
      | plain b hb => exact .plain hb ih
      | escape high low =>
        exact .escape (escapedByte?_eq_some_iff.mpr ⟨high, low, rfl, rfl, rfl⟩) ih

/-! ## Escaping chosen bytes -/

/-- The cases of the letters in the two digits of an escape: whether they are capital. -/
abbrev EscapeCase := Bool × Bool

/-- The escape of a byte. -/
def escapeOf (b : UInt8) (letters : EscapeCase) : PercentUnit :=
  .escape ⟨⟨b.toNat / 16, by have := b.toNat_lt; omega⟩, letters.1⟩
    ⟨⟨b.toNat % 16, by omega⟩, letters.2⟩

/-- The escape of a byte stands for the byte. -/
theorem meant_escapeOf (b : UInt8) (letters : EscapeCase) : (escapeOf b letters).meant = b := by
  change UInt8.ofNat (16 * (b.toNat / 16) + b.toNat % 16) = b
  rw [Nat.div_add_mod, UInt8.ofNat_toNat]

/-- Bytes with an escape at every place for which one is chosen. -/
def escapeChosen (chosen : Nat → Option EscapeCase) (bs : List UInt8) : List UInt8 :=
  bs.zipIdx.flatMap fun (b, place) =>
    match chosen place with
    | some letters => (escapeOf b letters).written
    | none => [b]

/-- Bytes are spelled by what is left of them when some are escaped, if every `%` is. -/
theorem spells_escapeChosen {chosen : Nat → Option EscapeCase} {bs : List UInt8}
    (hpercent : ∀ place, bs[place]? = some percentSign → chosen place ≠ none) :
    Spells (escapeChosen chosen bs) bs := by
  unfold escapeChosen
  -- The places are counted from any number on, so that the induction can move along.
  suffices h : ∀ start, (∀ place, bs[place]? = some percentSign → chosen (start + place) ≠ none) →
      Spells ((bs.zipIdx start).flatMap fun (b, place) =>
        match chosen place with
        | some letters => (escapeOf b letters).written
        | none => [b]) bs from
    h 0 (by simpa using hpercent)
  clear hpercent
  induction bs with
  | nil => exact fun _ _ => .nil
  | cons b bs ih =>
    intro start hpercent
    have hrest := ih (start + 1) fun place hplace => by
      have h := hpercent (place + 1) hplace
      rwa [← Nat.add_assoc, Nat.add_right_comm] at h
    rw [List.zipIdx_cons, List.flatMap_cons]
    dsimp only
    split
    · next letters hchosen =>
      refine .escape ?_ hrest
      exact escapedByte?_eq_some_iff.mpr ⟨_, _, rfl, rfl, meant_escapeOf b letters⟩
    · next hchosen =>
      refine .plain ?_ hrest
      rintro rfl
      exact hpercent 0 rfl hchosen

/-! ## Decoding in two passes -/

/-- Whether a byte is a hexadecimal digit. -/
def isHexDigit (b : UInt8) : Bool :=
  (hexValue? (Char.ofUInt8 b)).isSome

/-- Two bytes are read as an escaped byte when both of them are digits. -/
theorem isSome_escapedByte? (hi lo : UInt8) :
    (escapedByte? hi lo).isSome = (isHexDigit hi && isHexDigit lo) := by
  rw [escapedByte?_eq, Option.isSome_bind]
  cases h : hexValue? (Char.ofUInt8 hi) <;> simp [isHexDigit, h]

/-- Whether every `%` has two hexadecimal digits behind it; the digits of an escape are passed over
together with it. -/
def escapesComplete : List UInt8 → Bool
  | [] => true
  | b :: rest =>
    if b == percentSign then
      match rest with
      | hi :: lo :: rest => isHexDigit hi && isHexDigit lo && escapesComplete rest
      | _ => false
    else escapesComplete rest

/-- A way to resolve escapes that never fails. Nothing is known of what it makes of a `%` without
two digits behind it. -/
structure LenientDecoder where
  /-- The bytes without escapes. -/
  resolve : List UInt8 → List UInt8
  /-- Nothing stands for nothing. -/
  resolve_nil : resolve [] = []
  /-- A byte other than `%` is kept. -/
  resolve_plain : ∀ {b : UInt8} (rest : List UInt8), b ≠ percentSign →
    resolve (b :: rest) = b :: resolve rest
  /-- An escape is replaced by the byte that its digits mean. -/
  resolve_escape : ∀ (high low : HexDigit) (rest : List UInt8),
    resolve (percentSign :: high.byte :: low.byte :: rest) = high.together low :: resolve rest

/-- Decodes a component in two passes. -/
def LenientDecoder.decode? (decoder : LenientDecoder) (component : String) : Option String :=
  if component.toList.contains '%' then
    if escapesComplete (bytes component) then ofBytes? (decoder.resolve (bytes component)) else none
  else some component

namespace LenientDecoder

/-- A complete escape is resolved to the byte of its digits. -/
theorem resolve_of_escapedByte? (decoder : LenientDecoder) {hi lo b : UInt8}
    (h : escapedByte? hi lo = some b) (rest : List UInt8) :
    decoder.resolve (percentSign :: hi :: lo :: rest) = b :: decoder.resolve rest := by
  obtain ⟨high, low, rfl, rfl, rfl⟩ := escapedByte?_eq_some_iff.mp h
  exact decoder.resolve_escape high low rest

/-- Where all escapes are complete they are resolved alike, and else they are refused. -/
theorem unescape?_eq (decoder : LenientDecoder) : ∀ raw : List UInt8,
    unescape? raw = if escapesComplete raw then some (decoder.resolve raw) else none
  | [] => by
    rw [decoder.resolve_nil]
    rfl
  | b :: raw => by
    by_cases hb : b = percentSign
    · subst hb
      match raw with
      | [] => rfl
      | [hi] => rfl
      | hi :: lo :: raw =>
        rw [unescape?_escape, decoder.unescape?_eq raw]
        change _ = if isHexDigit hi && isHexDigit lo && escapesComplete raw then _ else none
        rw [← isSome_escapedByte?]
        cases hdigits : escapedByte? hi lo with
        | none => rfl
        | some byte =>
          rw [decoder.resolve_of_escapedByte? hdigits]
          cases escapesComplete raw <;> rfl
    · have hscan : escapesComplete (b :: raw) = escapesComplete raw := by
        rw [escapesComplete.eq_def]
        exact if_neg (by simpa using hb)
      rw [unescape?_plain hb, decoder.unescape?_eq raw, hscan, decoder.resolve_plain raw hb]
      cases escapesComplete raw <;> rfl

/-- Two passes come to the same as one. -/
theorem decode?_eq (decoder : LenientDecoder) (component : String) :
    decoder.decode? component = Query.decode? component := by
  unfold LenientDecoder.decode?
  by_cases hpercent : component.toList.contains '%' = true
  · rw [if_pos hpercent, Query.decode?, decoder.unescape?_eq]
    cases escapesComplete (bytes component) <;> rfl
  · rw [if_neg hpercent, decode?_of_not_mem (by simpa using hpercent)]

/-- Leaves a `%` as it is unless two digits stand behind it. -/
def keepPercent : List UInt8 → List UInt8
  | [] => []
  | b :: rest =>
    if b == percentSign then
      match rest with
      | hi :: lo :: others =>
        match escapedByte? hi lo with
        | some byte => byte :: keepPercent others
        | none => b :: keepPercent (hi :: lo :: others)
      | _ => b :: rest
    else b :: keepPercent rest

/-- The decoder that leaves a `%` without two digits behind it as it is. -/
def keeping : LenientDecoder where
  resolve := keepPercent
  resolve_nil := rfl
  resolve_plain rest hb := by
    rw [keepPercent.eq_def]
    exact if_neg (by simpa using hb)
  resolve_escape high low rest := by
    rw [keepPercent, if_pos (beq_self_eq_true percentSign),
      escapedByte?_eq_some_iff.mpr ⟨high, low, rfl, rfl, rfl⟩]

end LenientDecoder

/-! ## Exactness -/

/-- Decoding is strict percent-decoding. A component is decoded to a text exactly when its bytes
are units that stand for the bytes of the text; whatever bytes of a text are escaped, as long as
every `%` is among them, the result is decoded to the text; and a first pass over the escapes and a
lenient decoder after it come to the same. -/
theorem decoding_is_exact (component text : String) :
    (decode? component = some text ↔ ∃ units : List PercentUnit,
      bytes component = units.flatMap PercentUnit.written ∧
        bytes text = units.map PercentUnit.meant) ∧
      (∀ chosen : Nat → Option EscapeCase,
        (∀ place, (bytes text)[place]? = some percentSign → chosen place ≠ none) →
          bytes component = escapeChosen chosen (bytes text) → decode? component = some text) ∧
      ∀ decoder : LenientDecoder, decoder.decode? component = decode? component := by
  refine ⟨?_, ?_, fun decoder => decoder.decode?_eq component⟩
  · rw [decode?_eq_some_iff]
    exact spells_iff_exists_units
  · intro chosen hpercent hcomponent
    rw [decode?_eq_some_iff, hcomponent]
    exact spells_escapeChosen hpercent

/-- A text of which a letter of two bytes and a `%` are escaped, with digits of either case. -/
theorem decoding_is_exact_mixed_case :
    decode? "caf%C3%a9%25" = some "café%" ∧
      LenientDecoder.keeping.decode? "caf%C3%a9%25" = decode? "caf%C3%a9%25" := by
  have hexact := decoding_is_exact "caf%C3%a9%25" "café%"
  have hchosen := hexact.2.1
    (fun place => if place = 4 then some (false, false) else if 3 ≤ place then some (true, true)
      else none)
  refine ⟨hchosen ?_ (by decide +kernel), hexact.2.2 LenientDecoder.keeping⟩
  intro place hplace
  have hbytes : bytes "café%" = [0x63, 0x61, 0x66, 0xC3, 0xA9, 0x25] := by decide +kernel
  rw [hbytes] at hplace
  match place with
  | 0 | 1 | 2 => exact absurd hplace (by decide)
  | 3 | 4 | 5 => decide
  | place + 6 => exact absurd hplace (by simp)

end QueryGate.Query
