import QueryGate.Proofs.Query
import QueryGate.Query.Percent

/-!
# The bytes of a text

An ASCII character is written as one byte, and that byte is no part of any other character. So a
text is cut, split and searched for such a character in its bytes just as in its characters, and
the parts are the bytes of the parts of the text. Bytes are a text at most in one way.
-/

namespace QueryGate

namespace Text

/-! ## Texts and their bytes -/

/-- The bytes of characters, one after the other. -/
def encode (cs : List Char) : List UInt8 :=
  cs.flatMap String.utf8EncodeChar

/-- The bytes of two texts in a row. -/
theorem encode_append (cs ds : List Char) : encode (cs ++ ds) = encode cs ++ encode ds :=
  List.flatMap_append

/-- A text put together from characters has their bytes. -/
theorem bytes_ofList (cs : List Char) : bytes (String.ofList cs) = encode cs := by
  unfold bytes
  rw [String.toByteArray_ofList]
  exact List.toList_data_toByteArray

/-- The bytes of a text are those of its characters. -/
theorem bytes_eq_encode (s : String) : bytes s = encode s.toList := by
  rw [← bytes_ofList, String.ofList_toList]

/-- A text is as long as its bytes are many. -/
theorem length_bytes (s : String) : (bytes s).length = s.utf8ByteSize := rfl

/-- Bytes are read as a text exactly when they are the bytes of it. -/
theorem ofBytes?_eq_some_iff {bs : List UInt8} {s : String} :
    ofBytes? bs = some s ↔ bytes s = bs := by
  unfold ofBytes? String.fromUTF8?
  constructor
  · intro h
    split at h
    · cases h
      rfl
    · cases h
  · rintro rfl
    rw [dif_pos (show (⟨(bytes s).toArray⟩ : ByteArray).IsValidUTF8 from s.isValidUTF8)]
    rfl

/-- The bytes of a text are read as that text. -/
theorem ofBytes?_bytes (s : String) : ofBytes? (bytes s) = some s :=
  ofBytes?_eq_some_iff.mpr rfl

/-- The empty text alone has no bytes. -/
theorem bytes_eq_nil_iff {s : String} : bytes s = [] ↔ s = "" := by
  constructor
  · intro h
    have hread := ofBytes?_eq_some_iff.mpr h
    exact (Option.some.inj (hread.symm.trans (ofBytes?_bytes ""))).trans rfl
  · rintro rfl
    rfl

/-- No characters alone have no bytes. -/
theorem encode_eq_nil_iff {cs : List Char} : encode cs = [] ↔ cs = [] := by
  rw [← bytes_ofList, bytes_eq_nil_iff, ← String.toList_inj, String.toList_ofList]
  exact Iff.rfl

/-! ## Characters of one byte -/

/-- Every byte of a character that is not ASCII is at least 128. -/
theorem le_of_mem_utf8EncodeChar {c : Char} (hc : 128 ≤ c.toNat) {b : UInt8}
    (hb : b ∈ String.utf8EncodeChar c) : 128 ≤ b.toNat := by
  have hlong : ¬c.val.toNat ≤ 0x7f := by
    change ¬c.toNat ≤ 127
    omega
  revert hb
  fun_cases String.utf8EncodeChar c with
  | case1 v hv => exact absurd hv hlong
  | case2 v hv h2 =>
    simp only [List.mem_cons, List.not_mem_nil, or_false]
    rintro (rfl | rfl) <;> rw [UInt8.toNat_ofNat'] <;> omega
  | case3 v hv h2 h3 =>
    simp only [List.mem_cons, List.not_mem_nil, or_false]
    rintro (rfl | rfl | rfl) <;> rw [UInt8.toNat_ofNat'] <;> omega
  | case4 v hv h2 h3 =>
    simp only [List.mem_cons, List.not_mem_nil, or_false]
    rintro (rfl | rfl | rfl | rfl) <;> rw [UInt8.toNat_ofNat'] <;> omega

/-- An ASCII character is written as one byte. -/
theorem utf8EncodeChar_of_lt {c : Char} (hc : c.toNat < 128) :
    String.utf8EncodeChar c = [UInt8.ofNat c.toNat] := by
  unfold String.utf8EncodeChar
  exact if_pos (by change c.toNat ≤ 127; omega)

/-- A byte stands for a character: it is the only byte of the character and no part of another. -/
structure Marks (b : UInt8) (c : Char) : Prop where
  /-- The character is written as the byte. -/
  encode_eq : String.utf8EncodeChar c = [b]
  /-- No other character holds the byte. -/
  eq_of_mem : ∀ d, b ∈ String.utf8EncodeChar d → d = c

/-- The byte with the number of an ASCII character stands for it. -/
theorem marks_ofNat (c : Char) (hc : c.toNat < 128) : Marks (UInt8.ofNat c.toNat) c where
  encode_eq := utf8EncodeChar_of_lt hc
  eq_of_mem := by
    intro d hd
    have hbyte : (UInt8.ofNat c.toNat).toNat = c.toNat := by
      rw [UInt8.toNat_ofNat']
      omega
    by_cases hlong : 128 ≤ d.toNat
    · have hle := le_of_mem_utf8EncodeChar hlong hd
      omega
    · rw [utf8EncodeChar_of_lt (by omega), List.mem_singleton] at hd
      have hnumber := congrArg UInt8.toNat hd
      rw [hbyte, UInt8.toNat_ofNat'] at hnumber
      exact Char.toNat_inj.mp (by omega)

namespace Marks

variable {b : UInt8} {c : Char} {cs : List Char}

/-- The byte is among the bytes of a text exactly when the character is in the text. -/
theorem mem_encode_iff (h : Marks b c) : b ∈ encode cs ↔ c ∈ cs := by
  unfold encode
  rw [List.mem_flatMap]
  constructor
  · rintro ⟨d, hmem, hb⟩
    rw [← h.eq_of_mem d hb]
    exact hmem
  · intro hmem
    exact ⟨c, hmem, by rw [h.encode_eq]; exact List.mem_singleton_self b⟩

/-- The bytes of a text with the character in it. -/
theorem encode_append_cons (h : Marks b c) (before after : List Char) :
    encode (before ++ c :: after) = encode before ++ b :: encode after := by
  rw [encode_append]
  change encode before ++ (String.utf8EncodeChar c ++ encode after) = _
  rw [h.encode_eq]
  rfl

/-- Bytes are taken up to the byte where characters are taken up to the character. -/
theorem takeWhile_encode (h : Marks b c) (cs : List Char) :
    (encode cs).takeWhile (· != b) = encode (cs.takeWhile (· != c)) := by
  by_cases hc : c ∈ cs
  · obtain ⟨before, after, rfl, hbefore⟩ := List.eq_append_cons_of_mem hc
    rw [h.encode_append_cons, takeWhile_append_cons (mt h.mem_encode_iff.mp hbefore),
      takeWhile_append_cons hbefore]
  · rw [takeWhile_of_not_mem (mt h.mem_encode_iff.mp hc), takeWhile_of_not_mem hc]

/-- Bytes are cut at the byte where characters are cut at the character. -/
theorem cutAt?_encode (h : Marks b c) (cs : List Char) :
    cutAt? b (encode cs) = (cutAt? c cs).map fun parts => (encode parts.1, encode parts.2) := by
  by_cases hc : c ∈ cs
  · obtain ⟨before, after, rfl, hbefore⟩ := List.eq_append_cons_of_mem hc
    rw [h.encode_append_cons, cutAt?_append (mt h.mem_encode_iff.mp hbefore),
      cutAt?_append hbefore]
    rfl
  · rw [cutAt?_eq_none (mt h.mem_encode_iff.mp hc), cutAt?_eq_none hc]
    rfl

/-- Bytes are split at the byte where characters are split at the character. -/
theorem splitOn_encode (h : Marks b c) (cs : List Char) :
    (encode cs).splitOn b = (cs.splitOn c).map encode := by
  -- The induction goes from one occurrence of the character to the next.
  induction hlength : cs.length using Nat.strongRecOn generalizing cs with
  | ind n ih =>
    by_cases hc : c ∈ cs
    · obtain ⟨before, after, rfl, hbefore⟩ := List.eq_append_cons_of_mem hc
      have hshorter : after.length < n := by
        rw [← hlength, List.length_append, List.length_cons]
        omega
      rw [h.encode_append_cons,
        List.splitOn_append_cons_self_of_not_mem (mt h.mem_encode_iff.mp hbefore),
        List.splitOn_append_cons_self_of_not_mem hbefore, ih _ hshorter after rfl, List.map_cons]
    · rw [List.splitOn_eq_singleton (mt h.mem_encode_iff.mp hc), List.splitOn_eq_singleton hc]
      rfl

end Marks

end Text

/-! ## The separators of a query -/

namespace Query

open Text

/-- The byte `&` stands for the character. -/
theorem marks_ampersand : Marks ampersand '&' := marks_ofNat '&' (by decide)

/-- The byte `=` stands for the character. -/
theorem marks_equalsSign : Marks equalsSign '=' := marks_ofNat '=' (by decide)

/-- The byte `#` stands for the character. -/
theorem marks_hash : Marks hash '#' := marks_ofNat '#' (by decide)

/-- The byte `%` stands for the character. -/
theorem marks_percentSign : Marks percentSign '%' := marks_ofNat '%' (by decide)

/-- The part of a query before its fragment is the same in its bytes. -/
theorem bytesBeforeFragment_bytes (query : String) :
    bytesBeforeFragment (bytes query) = bytes (beforeFragment query) := by
  unfold bytesBeforeFragment beforeFragment
  rw [bytes_eq_encode, bytes_ofList, marks_hash.takeWhile_encode]

end Query

end QueryGate
