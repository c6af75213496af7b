import QueryGate.Proofs.Bytes
import QueryGate.Query.Segment
import Mathlib.Data.List.Forall2

/-!
# What percent-encoded text spells

A byte may be spelled by itself, unless it is `%`, or by an escape. Decoding finds what is spelled:
it succeeds exactly on the spellings of well-formed text, and it gives that text whichever bytes
are written as escapes. Text without `%` spells itself.
-/

namespace QueryGate.Query

open QueryGate.Text

/-- A byte sequence spells another one, byte by byte: each byte is written as it is, or as an
escape. -/
inductive Spells : List UInt8 → List UInt8 → Prop where
  /-- Nothing spells nothing. -/
  | nil : Spells [] []
  /-- A byte other than `%` spells itself. -/
  | plain {b : UInt8} {raw meant : List UInt8} (hb : b ≠ percentSign) (hrest : Spells raw meant) :
      Spells (b :: raw) (b :: meant)
  /-- A `%` and two hexadecimal digits spell the byte of the digits. -/
  | escape {hi lo b : UInt8} {raw meant : List UInt8} (hb : escapedByte? hi lo = some b)
      (hrest : Spells raw meant) : Spells (percentSign :: hi :: lo :: raw) (b :: meant)

variable {raw meant : List UInt8}

/-- A byte other than `%` is left as it is. -/
theorem unescape?_plain {b : UInt8} (hb : b ≠ percentSign) (raw : List UInt8) :
    unescape? (b :: raw) = (unescape? raw).map (b :: ·) := by
  rw [unescape?.eq_def (b :: raw)]
  dsimp only
  rw [if_neg (by simpa using hb)]
  cases unescape? raw <;> rfl

/-- An escape is resolved to the byte of its digits, if they are digits. -/
theorem unescape?_escape (hi lo : UInt8) (raw : List UInt8) :
    unescape? (percentSign :: hi :: lo :: raw) =
      (escapedByte? hi lo).bind fun b => (unescape? raw).map (b :: ·) := by
  rw [unescape?, if_pos (beq_self_eq_true percentSign)]
  cases escapedByte? hi lo with
  | none => rfl
  | some b => cases unescape? raw <;> rfl

/-- What resolving escapes finds is spelled. -/
theorem spells_of_unescape? : ∀ {raw meant : List UInt8}, unescape? raw = some meant →
    Spells raw meant
  | [], meant, h => by
    cases h
    exact .nil
  | b :: raw, meant, h => by
    by_cases hb : b = percentSign
    · subst hb
      match raw with
      | [] => cases h
      | [hi] => cases h
      | hi :: lo :: raw =>
        rw [unescape?_escape] at h
        obtain ⟨b, hdigits, htail⟩ := Option.bind_eq_some_iff.mp h
        obtain ⟨rest, hrest, rfl⟩ := Option.map_eq_some_iff.mp htail
        exact .escape hdigits (spells_of_unescape? hrest)
    · rw [unescape?_plain hb] at h
      obtain ⟨rest, hrest, rfl⟩ := Option.map_eq_some_iff.mp h
      exact .plain hb (spells_of_unescape? hrest)

/-- Resolving escapes finds what is spelled, and fails where nothing is. -/
theorem unescape?_eq_some_iff : unescape? raw = some meant ↔ Spells raw meant := by
  refine ⟨spells_of_unescape?, ?_⟩
  intro h
  induction h with
  | nil => rfl
  | plain hb hrest ih => rw [unescape?_plain hb, ih, Option.map_some]
  | escape hb hrest ih => rw [unescape?_escape, hb, Option.bind_some, ih, Option.map_some]

/-- A component is decoded to a text exactly when it spells the bytes of the text. -/
theorem decode?_eq_some_iff {component text : String} :
    decode? component = some text ↔ Spells (bytes component) (bytes text) := by
  rw [← unescape?_eq_some_iff]
  unfold decode?
  constructor
  · intro h
    obtain ⟨meant, hmeant, htext⟩ := Option.bind_eq_some_iff.mp h
    rw [hmeant, ofBytes?_eq_some_iff.mp htext]
  · intro h
    rw [h]
    exact ofBytes?_bytes text

/-- Bytes without `%` spell themselves. -/
theorem spells_self (h : percentSign ∉ raw) : Spells raw raw := by
  induction raw with
  | nil => exact .nil
  | cons b raw ih =>
    rw [List.mem_cons, not_or] at h
    exact .plain (Ne.symm h.1) (ih h.2)

/-- A component without `%` is decoded to itself. -/
theorem decode?_of_not_mem {component : String} (h : '%' ∉ component.toList) :
    decode? component = some component := by
  refine decode?_eq_some_iff.mpr (spells_self ?_)
  rw [bytes_eq_encode]
  exact mt marks_percentSign.mem_encode_iff.mp h

/-! ## Parameters -/

namespace Segment

/-- The parameter that a segment spells: its name and its value. -/
def param? (segment : Segment) : Option (String × String) :=
  match decode? segment.key, decode? segment.value with
  | some name, some value => some (name, value)
  | _, _ => none

/-- A segment spells a parameter exactly when its key is decoded to the name and its value to the
value. -/
theorem param?_eq_some_iff {segment : Segment} {name value : String} :
    segment.param? = some (name, value) ↔
      decode? segment.key = some name ∧ decode? segment.value = some value := by
  unfold param?
  cases decode? segment.key <;> cases decode? segment.value <;> simp

/-- Two segments spell the same bytes, of which each may write others as escapes. -/
structure Respells (segment other : Segment) : Prop where
  /-- The keys spell the same bytes. -/
  key : ∃ name, Spells (bytes segment.key) name ∧ Spells (bytes other.key) name
  /-- The values spell the same bytes. -/
  value : ∃ value, Spells (bytes segment.value) value ∧ Spells (bytes other.value) value

/-- Segments that spell the same bytes spell the same parameter, or both spell none. -/
theorem Respells.param?_eq {segment other : Segment} (h : segment.Respells other) :
    segment.param? = other.param? := by
  have hsame : ∀ {a b : String}, (∃ meant, Spells (bytes a) meant ∧ Spells (bytes b) meant) →
      decode? a = decode? b := by
    rintro a b ⟨meant, ha, hb⟩
    unfold decode?
    rw [unescape?_eq_some_iff.mpr ha, unescape?_eq_some_iff.mpr hb]
  unfold param?
  rw [hsame h.key, hsame h.value]

/-- Segments that spell the same bytes one by one spell the same parameters. -/
theorem map_param?_of_respells {these those : List Segment}
    (h : List.Forall₂ Respells these those) : these.map param? = those.map param? := by
  induction h with
  | nil => rfl
  | cons hfirst hrest ih => rw [List.map_cons, List.map_cons, hfirst.param?_eq, ih]

end Segment

end QueryGate.Query
