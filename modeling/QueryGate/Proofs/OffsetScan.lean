import QueryGate.Proofs.Cutting
import QueryGate.Proofs.Offsets

/-!
# Scanning bytes

The scanners of rule text, byte by byte: a cursor goes through the bytes of a text, counts brackets
and notes offsets. A backslash hides one byte only, which may be the first of a character; the
others are passed over as well, since no byte of a character that is not ASCII is a sign or a
delimiter. So what is noted are the offsets of what the scanners of characters find, and no scan
breaks off.
-/

namespace QueryGate.Offsets

open QueryGate.Text QueryGate.Brackets

/-! ## The scanners -/

/-- Where a scan stands. -/
structure Scan (σ : Type) where
  /-- The offset of the next byte. -/
  offset : Nat
  /-- How many brackets are open. -/
  depth : Nat
  /-- What has been noted. -/
  noted : σ

/-- The number of open brackets behind one that closes. -/
def countOff {ε : Type} : Nat → Checked ε Nat
  | 0 => .error (.fault .depth)
  | depth + 1 => .ok depth

section Scanners

variable {σ : Type}

/-- One round of the visit to all bytes that are neither hidden nor in brackets. A visitor notes
what it wants to, and says whether it has seen enough. -/
def visitRound (bs : List UInt8) (visit : σ → Nat → UInt8 → σ × Bool) (scan : Scan σ) :
    Checked Nat (Turn (Scan σ) σ) :=
  match bs[scan.offset]? with
  | none => if scan.depth = 0 then .ok (.leave scan.noted) else .error (.error bs.length)
  | some b =>
    if b = byteSigns.escape then
      .ok (.next { scan with offset := bump bs (scan.offset + 1) })
    else if b = byteSigns.opening then
      .ok (.next { scan with offset := scan.offset + 1, depth := scan.depth + 1 })
    else if b = byteSigns.closing then
      if scan.depth = 0 then .error (.error scan.offset)
      else do return .next { scan with offset := scan.offset + 1, depth := ← countOff scan.depth }
    else if scan.depth = 0 then
      match visit scan.noted scan.offset b with
      | (noted, true) => .ok (.leave noted)
      | (noted, false) => .ok (.next { scan with offset := scan.offset + 1, noted })
    else .ok (.next { scan with offset := scan.offset + 1 })

/-- Visits the bytes that are neither hidden nor in brackets. -/
def visitAll (bs : List UInt8) (visit : σ → Nat → UInt8 → σ × Bool) (noted : σ) : Checked Nat σ :=
  loop (visitRound bs visit) (bs.length + 1) ⟨0, 0, noted⟩

/-- Notes where delimiters are. -/
def noteCut (delimiters : List UInt8) (cuts : List Nat) (offset : Nat) (b : UInt8) :
    List Nat × Bool :=
  (if b ∈ delimiters then cuts ++ [offset] else cuts, false)

/-- Notes where the first needle is. -/
def noteNeedle (needle : UInt8) (found : Option Nat) (offset : Nat) (b : UInt8) :
    Option Nat × Bool :=
  if b = needle then (some offset, true) else (found, false)

/-- The parts of a text between the cuts behind an offset. -/
def partsFrom {ε : Type} (text : String) (start : Nat) : List Nat → Checked ε (List String)
  | [] => do return [← part text start text.utf8ByteSize]
  | cut :: cuts => do
    let first ← part text start cut
    return first :: (← partsFrom text (cut + 1) cuts)

/-- The parts of a text between the delimiters outside brackets. -/
def split (delimiters : List UInt8) (text : String) : Checked Nat (List String) := do
  partsFrom text 0 (← visitAll (bytes text) (noteCut delimiters) [])

/-- The offset of the first needle outside brackets. -/
def find (needle : UInt8) (text : String) : Checked Nat (Option Nat) :=
  visitAll (bytes text) (noteNeedle needle) none

/-- One round of the search for the bracket that closes the first of the open ones. -/
def closeRound (bs : List UInt8) (scan : Scan Unit) : Checked Nat (Turn (Scan Unit) Nat) :=
  match bs[scan.offset]? with
  | none => .error (.error bs.length)
  | some b =>
    if b = byteSigns.escape then
      .ok (.next { scan with offset := bump bs (scan.offset + 1) })
    else if b = byteSigns.opening then
      .ok (.next { scan with offset := scan.offset + 1, depth := scan.depth + 1 })
    else if b = byteSigns.closing then do
      let depth ← countOff scan.depth
      if depth = 0 then return .leave scan.offset
      return .next { scan with offset := scan.offset + 1, depth }
    else .ok (.next { scan with offset := scan.offset + 1 })

/-- The offset of the bracket that closes the one with which a text starts. -/
def close (text : String) : Checked Nat Nat :=
  if (bytes text).head? = some byteSigns.opening then
    loop (closeRound (bytes text)) ((bytes text).length + 1) ⟨1, 1, ()⟩
  else .error (.error 0)

end Scanners

/-! ## Bytes of characters -/

/-- Bytes stand for the characters that are wanted, which are all ASCII. -/
structure Spells (delimiters : List UInt8) (wanted : Char → Bool) : Prop where
  /-- The bytes are those of ASCII characters. -/
  ascii : ∀ b ∈ delimiters, b.toNat < 128
  /-- The characters that are wanted are those with the numbers of the bytes. -/
  wanted_iff : ∀ c, wanted c = true ↔ ∃ b ∈ delimiters, b.toNat = c.toNat

/-- The byte of an ASCII character. -/
def ascii (c : Char) : UInt8 :=
  UInt8.ofNat c.toNat

/-- The bytes of ASCII characters stand for these characters. -/
theorem spells_map {signs : List Char} {wanted : Char → Bool} (hascii : ∀ c ∈ signs, c.toNat < 128)
    (hwanted : ∀ c, wanted c = true ↔ c ∈ signs) : Spells (signs.map ascii) wanted := by
  have hbyte : ∀ c ∈ signs, (ascii c).toNat = c.toNat := by
    intro c hc
    have hsmall := hascii c hc
    unfold ascii
    rw [UInt8.toNat_ofNat']
    omega
  constructor
  · intro b hb
    obtain ⟨c, hc, rfl⟩ := List.mem_map.mp hb
    rw [hbyte c hc]
    exact hascii c hc
  · intro c
    rw [hwanted]
    constructor
    · intro hc
      exact ⟨ascii c, List.mem_map_of_mem hc, hbyte c hc⟩
    · rintro ⟨b, hb, hnumber⟩
      obtain ⟨d, hd, rfl⟩ := List.mem_map.mp hb
      rw [hbyte d hd, Char.toNat_inj] at hnumber
      exact hnumber ▸ hd

/-- One byte stands for one character. -/
theorem spells_singleton {c : Char} (hc : c.toNat < 128) : Spells [ascii c] (· == c) :=
  spells_map (List.forall_mem_singleton.mpr hc) fun d => by rw [beq_iff_eq, List.mem_singleton]

/-- No byte stands for no character. -/
theorem spells_nil : Spells [] fun _ => false :=
  spells_map (List.forall_mem_nil _) fun c => by simp

/-- The bytes of a character stand in front of those of the characters behind it. -/
theorem encode_cons (c : Char) (cs : List Char) :
    encode (c :: cs) = String.utf8EncodeChar c ++ encode cs := rfl

/-- A byte that stands for a character stands in front of the bytes of the characters behind it. -/
theorem encode_cons_of_marks {b : UInt8} {c : Char} (h : Marks b c) (cs : List Char) :
    encode (c :: cs) = b :: encode cs := by
  rw [encode_cons, h.encode_eq, List.singleton_append]

/-- A backslash is the first byte of a text that starts with it. -/
theorem encode_escape (cs : List Char) : encode ('\\' :: cs) = byteSigns.escape :: encode cs :=
  encode_cons_of_marks marks_escape cs

/-- An opening bracket is the first byte of a text that starts with it. -/
theorem encode_opening (cs : List Char) : encode ('[' :: cs) = byteSigns.opening :: encode cs :=
  encode_cons_of_marks marks_opening cs

/-- A closing bracket is the first byte of a text that starts with it. -/
theorem encode_closing (cs : List Char) : encode (']' :: cs) = byteSigns.closing :: encode cs :=
  encode_cons_of_marks marks_closing cs

/-- A byte that is no ASCII character is none of the signs. -/
theorem plain_of_le {b : UInt8} (h : 128 ≤ b.toNat) : byteSigns.Plain b := by
  refine ⟨?_, ?_, ?_⟩
  all_goals
    rintro rfl
    revert h
    decide

/-- The bytes of a character behind its first one are no ASCII characters. -/
theorem le_of_mem_more {c : Char} {b : UInt8} {more : List UInt8}
    (hbytes : String.utf8EncodeChar c = b :: more) : ∀ m ∈ more, 128 ≤ m.toNat := by
  intro m hm
  by_cases hc : 128 ≤ c.toNat
  · exact le_of_mem_utf8EncodeChar hc (hbytes ▸ List.mem_cons_of_mem b hm)
  · rw [utf8EncodeChar_of_lt (by omega), List.cons.injEq] at hbytes
    rw [← hbytes.2] at hm
    cases hm

namespace Spells

variable {delimiters : List UInt8} {wanted : Char → Bool} {c : Char}

/-- No delimiter is a byte that is no ASCII character. -/
theorem not_mem_of_le (h : Spells delimiters wanted) {b : UInt8} (hb : 128 ≤ b.toNat) :
    b ∉ delimiters := by
  intro hmem
  have hascii := h.ascii b hmem
  omega

/-- A character that is not wanted has no byte that is a delimiter. -/
theorem not_mem_of_unwanted (h : Spells delimiters wanted) (hc : wanted c = false) :
    ∀ b ∈ String.utf8EncodeChar c, b ∉ delimiters := by
  intro b hb
  by_cases hlong : 128 ≤ c.toNat
  · exact h.not_mem_of_le (le_of_mem_utf8EncodeChar hlong hb)
  · intro hmem
    rw [utf8EncodeChar_of_lt (by omega), List.mem_singleton] at hb
    have hnumber : b.toNat = c.toNat := by
      rw [hb, UInt8.toNat_ofNat']
      omega
    rw [(h.wanted_iff c).mpr ⟨b, hmem, hnumber⟩] at hc
    cases hc

/-- A character that is wanted is written as a delimiter. -/
theorem exists_encode_eq (h : Spells delimiters wanted) (hc : wanted c = true) :
    ∃ b ∈ delimiters, String.utf8EncodeChar c = [b] := by
  obtain ⟨b, hmem, hnumber⟩ := (h.wanted_iff c).mp hc
  have hascii := h.ascii b hmem
  refine ⟨b, hmem, ?_⟩
  rw [utf8EncodeChar_of_lt (by omega), ← hnumber, UInt8.ofNat_toNat]

/-- A character that is wanted takes one byte. -/
theorem utf8Size_eq_one (h : Spells delimiters wanted) (hc : wanted c = true) :
    c.utf8Size = 1 := by
  obtain ⟨b, _, hbyte⟩ := h.exists_encode_eq hc
  rw [← String.length_utf8EncodeChar, hbyte]
  rfl

end Spells

/-! ## Bytes that are passed over -/

/-- A scan over bytes passes over a hidden byte, over brackets, and over everything else but the
delimiters outside brackets. It may count some brackets more than are open in the text. -/
structure ByteScans {σ α : Type} (bs delimiters : List UInt8) (base : Nat)
    (round : Scan σ → Checked Nat (Turn (Scan σ) α)) : Prop where
  /-- A backslash hides the next byte, if there is one. -/
  escape : ∀ {offset rest} depth noted, At bs offset (byteSigns.escape :: rest) →
    round ⟨offset, depth, noted⟩ = .ok (.next ⟨bump bs (offset + 1), depth, noted⟩)
  /-- An opening bracket is counted. -/
  opening : ∀ {offset rest} depth noted, At bs offset (byteSigns.opening :: rest) →
    round ⟨offset, depth + base, noted⟩ = .ok (.next ⟨offset + 1, depth + 1 + base, noted⟩)
  /-- A closing bracket is counted off. -/
  closing : ∀ {offset rest} depth noted, At bs offset (byteSigns.closing :: rest) →
    round ⟨offset, depth + 1 + base, noted⟩ = .ok (.next ⟨offset + 1, depth + base, noted⟩)
  /-- Any other byte is passed over, unless it is a delimiter and stands outside brackets. -/
  plain : ∀ {offset b rest} depth noted, At bs offset (b :: rest) → byteSigns.Plain b →
    (depth = 0 → b ∉ delimiters) →
    round ⟨offset, depth + base, noted⟩ = .ok (.next ⟨offset + 1, depth + base, noted⟩)

namespace ByteScans

variable {σ α : Type} {bs delimiters rest : List UInt8} {base depth depth' offset : Nat}
  {round : Scan σ → Checked Nat (Turn (Scan σ) α)} {noted : σ} {result : Checked Nat α}
  {wanted : Char → Bool}

/-- Bytes that are neither signs nor delimiters are passed over. -/
theorem ends_plain (h : ByteScans bs delimiters base round) {passed : List UInt8}
    (hpassed : ∀ b ∈ passed, byteSigns.Plain b ∧ (depth = 0 → b ∉ delimiters))
    (hat : At bs offset (passed ++ rest))
    (hends : Ends round rest.length ⟨offset + passed.length, depth + base, noted⟩ result) :
    Ends round (passed ++ rest).length ⟨offset, depth + base, noted⟩ result := by
  induction passed generalizing offset with
  | nil => exact hends
  | cons b passed ih =>
    rw [List.forall_mem_cons] at hpassed
    have hround := h.plain depth noted hat hpassed.1.1 hpassed.1.2
    refine .next hround (Nat.lt_succ_self _) (ih hpassed.2 hat.tail ?_)
    rwa [List.length_cons, ← Nat.add_assoc, Nat.add_right_comm] at hends

/-- The bytes of a text that is passed over are passed over. -/
theorem ends_passes (h : ByteScans bs delimiters base round) (hspells : Spells delimiters wanted)
    {passed : List Char} (hpasses : Passes wanted depth passed depth')
    (hat : At bs offset (encode passed ++ rest))
    (hends : Ends round rest.length ⟨offset + byteLength passed, depth' + base, noted⟩ result) :
    Ends round (encode passed ++ rest).length ⟨offset, depth + base, noted⟩ result := by
  induction hpasses generalizing offset with
  | nil => exact hends
  | @escape depth depth' cs c _ ih =>
    obtain ⟨b, more, hbytes⟩ := List.exists_cons_of_ne_nil (String.utf8EncodeChar_ne_nil (c := c))
    have hencode : encode ('\\' :: c :: cs) ++ rest =
        byteSigns.escape :: b :: (more ++ (encode cs ++ rest)) := by
      rw [encode_escape, encode_cons, hbytes]
      simp
    have hsize : byteLength ('\\' :: c :: cs) = 1 + (1 + more.length + byteLength cs) := by
      have hmore := congrArg List.length hbytes
      rw [String.length_utf8EncodeChar, List.length_cons] at hmore
      change 1 + (c.utf8Size + byteLength cs) = _
      omega
    rw [hencode] at hat ⊢
    have hround := h.escape (depth + base) noted hat
    rw [hat.tail.bump_cons] at hround
    -- The backslash hides the first byte only; the others are passed over by themselves.
    have hmore : ∀ m ∈ more, byteSigns.Plain m ∧ (depth = 0 → m ∉ delimiters) := fun m hm =>
      have hlarge := le_of_mem_more hbytes m hm
      ⟨plain_of_le hlarge, fun _ => hspells.not_mem_of_le hlarge⟩
    refine .next hround (Nat.lt_add_of_pos_right (by decide) : _ < _ + 2)
      (h.ends_plain hmore hat.tail.tail ?_)
    refine ih hat.tail.tail.pass ?_
    rw [hsize] at hends
    convert hends using 2
    omega
  | @opening depth depth' cs _ ih =>
    rw [encode_opening] at hat ⊢
    have hround := h.opening depth noted hat
    refine .next hround (Nat.lt_succ_self _) (ih hat.tail ?_)
    rw [Nat.add_assoc]
    exact hends
  | @closing depth depth' cs _ ih =>
    rw [encode_closing] at hat ⊢
    have hround := h.closing depth noted hat
    refine .next hround (Nat.lt_succ_self _) (ih hat.tail ?_)
    rw [Nat.add_assoc]
    exact hends
  | @plain depth depth' c cs hplain hunwanted _ ih =>
    rw [encode_cons, List.append_assoc] at hat ⊢
    have hpassed : ∀ b ∈ String.utf8EncodeChar c,
        byteSigns.Plain b ∧ (depth = 0 → b ∉ delimiters) := fun b hb =>
      ⟨plain_of_mem_utf8EncodeChar hplain b hb,
        fun hdepth => hspells.not_mem_of_unwanted (hunwanted hdepth) b hb⟩
    refine h.ends_plain hpassed hat (ih hat.pass ?_)
    rw [String.length_utf8EncodeChar, Nat.add_assoc]
    exact hends

end ByteScans

/-! ## What the searches find -/

section Searches

variable {σ α : Type} {bs delimiters : List UInt8} {depth offset : Nat} {noted : σ}
  {wanted : Char → Bool}

/-- What a scan that has come to an offset gives, where the search over the characters from there on
has this result. An error is told by its offset in the whole text. -/
def placed (offset : Nat) (note : Nat → α → σ) : Except Nat (List Char × α) → Checked Nat σ
  | .ok (first, others) => .ok (note (offset + byteLength first) others)
  | .error behind => .error (.error (offset + behind))

/-- A result with passed text in front of it is one without, further behind. -/
theorem placed_keep (offset : Nat) (note : Nat → α → σ) (passed : List Char)
    (result : Except Nat (List Char × α)) :
    placed offset note (keep passed result) = placed (offset + byteLength passed) note result := by
  cases result with
  | ok found =>
    obtain ⟨first, others⟩ := found
    change Except.ok (note (offset + byteLength (passed ++ first)) others) =
      Except.ok (note (offset + byteLength passed + byteLength first) others)
    rw [byteLength_append, Nat.add_assoc]
  | error behind => exact congrArg (Except.error ∘ Stop.error) (Nat.add_assoc ..).symm

/-- A visitor notes what a search over characters finds. -/
structure Notes (visit : σ → Nat → UInt8 → σ × Bool) (delimiters : List UInt8)
    (wanted : Char → Bool) (scan : Nat → List Char → Except Nat (List Char × α)) (nothing : α)
    (note : σ → Nat → α → σ) : Prop where
  /-- Bytes that are no delimiters are not noted. -/
  quiet : ∀ {b} noted offset, b ∉ delimiters → visit noted offset b = (noted, false)
  /-- A search that comes to the end finds nothing, or finds that brackets are left open. -/
  nil : ∀ depth, scan depth [] = if depth = 0 then .ok ([], nothing) else .error 0
  /-- A backslash at the end hides nothing. -/
  lone : ∀ depth, scan depth ['\\'] = keep ['\\'] (scan depth [])
  /-- A bracket that closes without being open is an error. -/
  closing : ∀ rest, scan 0 (']' :: rest) = .error 0
  /-- Where nothing is found nothing is noted. -/
  note_nothing : ∀ noted stop, note noted stop nothing = noted
  /-- A delimiter is noted where it is found. -/
  hit : ∀ {b c} cs offset noted, b ∈ delimiters → textSigns.Plain c → wanted c = true →
    c.utf8Size = 1 → placed offset (note noted) (scan 0 (c :: cs)) =
      match visit noted offset b with
      | (noted, true) => .ok noted
      | (noted, false) => placed (offset + 1) (note noted) (scan 0 cs)

namespace Notes

variable {visit : σ → Nat → UInt8 → σ × Bool}
  {scan : Nat → List Char → Except Nat (List Char × α)} {nothing : α} {note : σ → Nat → α → σ}

/-- A visit passes over what is not noted. -/
theorem byteScans (h : Notes visit delimiters wanted scan nothing note) :
    ByteScans bs delimiters 0 (visitRound bs visit) where
  escape depth noted hat := by
    unfold visitRound
    rw [hat.getElem?_eq]
    rfl
  opening depth noted hat := by
    unfold visitRound
    rw [hat.getElem?_eq]
    rfl
  closing depth noted hat := by
    unfold visitRound
    rw [hat.getElem?_eq]
    rfl
  plain {offset b rest} depth noted hat hplain hquiet := by
    obtain ⟨hescape, hopening, hclosing⟩ := hplain
    unfold visitRound
    rw [hat.getElem?_eq]
    dsimp only [List.head?_cons, Nat.add_zero]
    rw [if_neg hescape, if_neg hopening, if_neg hclosing]
    split
    · next hdepth => rw [h.quiet noted offset (hquiet hdepth)]
    · rfl

/-- At the end a visit is over. -/
theorem ends_nil (h : Notes visit delimiters wanted scan nothing note) (hat : At bs offset []) :
    Ends (visitRound bs visit) 0 ⟨offset, depth, noted⟩
      (placed offset (note noted) (scan depth [])) := by
  have hround : visitRound bs visit ⟨offset, depth, noted⟩ =
      if depth = 0 then .ok (.leave noted) else .error (.error bs.length) := by
    unfold visitRound
    rw [hat.getElem?_eq]
    rfl
  have hend : bs.length = offset := hat.length_eq.symm
  rw [h.nil]
  split
  · next hdepth =>
    rw [if_pos hdepth] at hround
    change Ends _ _ _ (.ok (note noted offset nothing))
    rw [h.note_nothing]
    exact .leave hround
  · next hdepth =>
    rw [if_neg hdepth, hend] at hround
    exact .stop hround

/-- A visit notes what the search over the characters from there on finds. -/
theorem ends (h : Notes visit delimiters wanted scan nothing note)
    (hspells : Spells delimiters wanted) (hscans : Scans wanted scan) (cs : List Char)
    (hat : At bs offset (encode cs)) :
    Ends (visitRound bs visit) (encode cs).length ⟨offset, depth, noted⟩
      (placed offset (note noted) (scan depth cs)) := by
  -- The induction goes from one delimiter that is noted to the next.
  induction hlength : cs.length using Nat.strongRecOn generalizing cs depth offset noted with
  | ind n ih =>
    obtain ⟨passed, rest, depth', rfl, hpasses, hstuck⟩ := exists_passes wanted depth cs
    rw [encode_append] at hat ⊢
    rw [hscans.append hpasses, placed_keep]
    refine h.byteScans.ends_passes hspells hpasses hat ?_
    have hat := hat.pass
    rw [length_encode] at hat
    generalize offset + byteLength passed = offset at hat ⊢
    cases hstuck with
    | nil => exact h.ends_nil hat
    | lone =>
      rw [encode_escape] at hat ⊢
      have hround := h.byteScans.escape depth' noted hat
      rw [hat.tail.bump_nil] at hround
      rw [h.lone, placed_keep]
      exact .next hround Nat.one_pos (h.ends_nil hat.tail)
    | closing rest =>
      rw [encode_closing] at hat
      rw [h.closing]
      refine .stop ?_
      unfold visitRound
      rw [hat.getElem?_eq]
      rfl
    | @wanted c hplain hwanted rest =>
      obtain ⟨b, hmem, hbyte⟩ := hspells.exists_encode_eq hwanted
      have hplainByte := plain_of_mem_utf8EncodeChar hplain b (hbyte ▸ List.mem_singleton_self b)
      have hsize := hspells.utf8Size_eq_one hwanted
      rw [encode_cons, hbyte, List.singleton_append] at hat ⊢
      rw [h.hit rest offset noted hmem hplain hwanted hsize]
      have hround : visitRound bs visit ⟨offset, 0, noted⟩ = match visit noted offset b with
          | (noted, true) => .ok (.leave noted)
          | (noted, false) => .ok (.next ⟨offset + 1, 0, noted⟩) := by
        obtain ⟨hescape, hopening, hclosing⟩ := hplainByte
        unfold visitRound
        rw [hat.getElem?_eq]
        dsimp only [List.head?_cons]
        rw [if_neg hescape, if_neg hopening, if_neg hclosing, if_pos rfl]
      rcases hvisit : visit noted offset b with ⟨noted', enough⟩
      rw [hvisit] at hround
      cases enough with
      | true => exact .leave hround
      | false =>
        refine .next hround (Nat.lt_succ_self _) (ih rest.length ?_ rest hat.tail rfl)
        rw [← hlength, List.length_append, List.length_cons]
        omega

/-- A visit to all bytes of a text notes what the search over its characters finds. -/
theorem visitAll_eq (h : Notes visit delimiters wanted scan nothing note)
    (hspells : Spells delimiters wanted) (hscans : Scans wanted scan) (text : String) (noted : σ) :
    visitAll (bytes text) visit noted = placed 0 (note noted) (scan 0 text.toList) := by
  have hends : Ends (visitRound (bytes text) visit) (bytes text).length ⟨0, 0, noted⟩
      (placed 0 (note noted) (scan 0 text.toList)) := by
    rw [bytes_eq_encode]
    exact h.ends hspells hscans text.toList (.start _)
  exact hends _ (Nat.lt_succ_self _)

end Notes

/-- The offsets of the delimiters between parts, of which the first stands here. -/
def cutsFrom (stop : Nat) : List (List Char) → List Nat
  | [] => []
  | part :: parts => stop :: cutsFrom (stop + 1 + byteLength part) parts

/-- The delimiters are noted at which characters are cut. -/
theorem notes_noteCut :
    Notes (noteCut delimiters) delimiters wanted (splitFrom wanted) []
      (fun noted stop others => noted ++ cutsFrom stop others) where
  quiet {b} noted offset hb := by
    unfold noteCut
    rw [if_neg hb]
  nil depth := by rw [splitFrom.eq_def]
  lone depth := by rw [splitFrom.eq_def]; rfl
  closing rest := splitFrom_closing wanted rest
  note_nothing noted stop := List.append_nil noted
  hit {b c} cs offset noted hb hplain hwanted hsize := by
    rw [splitFrom_of_plain _ _ hplain, hwanted]
    unfold noteCut
    rw [if_pos hb]
    cases splitFrom wanted 0 cs with
    | ok found =>
      obtain ⟨first, others⟩ := found
      change Except.ok (noted ++ offset :: cutsFrom (offset + 1 + byteLength first) others) =
        Except.ok (noted ++ [offset] ++ cutsFrom (offset + 1 + byteLength first) others)
      rw [List.append_assoc, List.singleton_append]
    | error behind =>
      change Except.error (Stop.error (offset + (c.utf8Size + behind))) =
        Except.error (Stop.error (offset + 1 + behind))
      rw [hsize, Nat.add_assoc]

/-- The needle is noted that is found among characters. -/
theorem notes_noteNeedle {needle : UInt8} {c : Char} :
    Notes (noteNeedle needle) [needle] (· == c) (findFrom c) none
      (fun noted stop after => if after.isSome then some stop else noted) where
  quiet {b} noted offset hb := by
    unfold noteNeedle
    rw [if_neg (mt List.mem_singleton.mpr hb)]
  nil depth := by rw [findFrom.eq_def]
  lone depth := by rw [findFrom.eq_def]; rfl
  closing rest := findFrom_closing c rest
  note_nothing noted stop := rfl
  hit {b d} cs offset noted hb hplain hwanted hsize := by
    rw [findFrom_of_plain _ _ hplain, hwanted]
    unfold noteNeedle
    rw [if_pos (List.mem_singleton.mp hb)]
    rfl

end Searches

/-! ## Cutting -/

/-- The parts between the offsets of delimiters are the parts between the delimiters. -/
theorem partsFrom_eq {ε : Type} {text : String} {before first : List Char} {removed : List Char}
    {others : List (List Char)} (hlength : removed.length = others.length)
    (hsize : ∀ d ∈ removed, d.utf8Size = 1)
    (htext : text.toList = before ++ (first ++ (List.zipWith List.cons removed others).flatten)) :
    (partsFrom text (byteLength before)
      (cutsFrom (byteLength before + byteLength first) others) : Checked ε (List String)) =
      .ok ((first :: others).map String.ofList) := by
  induction others generalizing before first removed with
  | nil =>
    rw [List.length_nil, List.length_eq_zero_iff] at hlength
    subst hlength
    unfold cutsFrom partsFrom
    rw [part_end (by simpa using htext)]
    rfl
  | cons part others ih =>
    obtain ⟨d, removed, rfl⟩ := List.exists_cons_of_length_eq_add_one hlength
    rw [List.forall_mem_cons] at hsize
    rw [List.length_cons, List.length_cons, Nat.add_right_cancel_iff] at hlength
    rw [List.zipWith_cons_cons, List.flatten_cons] at htext
    have hbehind : byteLength (before ++ (first ++ [d])) =
        byteLength before + byteLength first + 1 := by
      rw [byteLength_append, byteLength_append, ← Nat.add_assoc]
      change _ + (d.utf8Size + 0) = _
      rw [hsize.1]
    have hnext : text.toList = (before ++ (first ++ [d])) ++
        (part ++ (List.zipWith List.cons removed others).flatten) := by
      simpa using htext
    have hrest := ih hlength hsize.2 hnext
    rw [hbehind] at hrest
    unfold cutsFrom partsFrom
    rw [part_eq htext, hrest]
    rfl

/-- Text is cut by offsets as its characters are cut. -/
theorem split_eq {delimiters : List UInt8} {wanted : Char → Bool}
    (hspells : Spells delimiters wanted) (text : String) :
    split delimiters text =
      faultless ((Brackets.split wanted text.toList).map (List.map String.ofList)) := by
  unfold split Brackets.split
  rw [notes_noteCut.visitAll_eq hspells (scans_splitFrom wanted) text []]
  cases hfrom : splitFrom wanted 0 text.toList with
  | error offset =>
    change Except.error (Stop.error (0 + offset)) = Except.error (Stop.error offset)
    rw [Nat.zero_add]
  | ok found =>
    obtain ⟨first, others⟩ := found
    obtain ⟨removed, hlength, hremoved, htext⟩ := (Cut.of_splitFrom hfrom).exists_removed
    have hsize : ∀ d ∈ removed, d.utf8Size = 1 := fun d hd =>
      hspells.utf8Size_eq_one (hremoved d hd)
    have hwhole : text.toList =
        [] ++ (first ++ (List.zipWith List.cons removed others).flatten) := htext.symm
    exact partsFrom_eq hlength hsize hwhole

/-- A sign is found at the offset behind the characters before it. -/
theorem find_eq {c : Char} (hc : c.toNat < 128) (text : String) :
    find (ascii c) text = faultless
      ((Brackets.find c text.toList).map (Option.map fun found => byteLength found.1)) := by
  unfold find Brackets.find
  rw [notes_noteNeedle.visitAll_eq (spells_singleton hc) (scans_findFrom c) text none]
  rcases findFrom c 0 text.toList with offset | ⟨first, none | after⟩
  · change Except.error (Stop.error (0 + offset)) = Except.error (Stop.error offset)
    rw [Nat.zero_add]
  · rfl
  · change Except.ok (some (0 + byteLength first)) = Except.ok (some (byteLength first))
    rw [Nat.zero_add]

/-! ## Closing brackets -/

section Closing

variable {bs : List UInt8} {depth offset : Nat}

/-- The search for the partner of a bracket passes over everything inside the bracket, which itself
is counted as well. -/
theorem byteScans_closeRound (bs : List UInt8) : ByteScans bs [] 1 (closeRound bs) where
  escape depth noted hat := by
    unfold closeRound
    rw [hat.getElem?_eq]
    rfl
  opening depth noted hat := by
    unfold closeRound
    rw [hat.getElem?_eq]
    rfl
  closing depth noted hat := by
    unfold closeRound
    rw [hat.getElem?_eq]
    rfl
  plain depth noted hat hplain _ := by
    obtain ⟨hescape, hopening, hclosing⟩ := hplain
    unfold closeRound
    rw [hat.getElem?_eq]
    dsimp only [List.head?_cons]
    rw [if_neg hescape, if_neg hopening, if_neg hclosing]

/-- At the end the partner of a bracket is not found. -/
theorem ends_closeRound_nil (hat : At bs offset []) :
    Ends (closeRound bs) 0 ⟨offset, depth, ()⟩ (.error (.error offset)) := by
  have hend : bs.length = offset := hat.length_eq.symm
  refine .stop ?_
  unfold closeRound
  rw [hat.getElem?_eq, ← hend]
  rfl

/-- The partner of a bracket is found where it is found among characters. -/
theorem ends_closeRound (cs : List Char) (hat : At bs offset (encode cs)) :
    Ends (closeRound bs) (encode cs).length ⟨offset, depth + 1, ()⟩
      (placed offset (fun stop _ => stop) (closeFrom depth cs)) := by
  have hscans := byteScans_closeRound bs
  obtain ⟨passed, rest, depth', rfl, hpasses, hstuck⟩ := exists_passes (fun _ => false) depth cs
  rw [encode_append] at hat ⊢
  rw [scans_closeFrom.append hpasses, placed_keep]
  refine hscans.ends_passes spells_nil hpasses hat ?_
  have hat := hat.pass
  rw [length_encode] at hat
  generalize offset + byteLength passed = offset at hat ⊢
  cases hstuck with
  | nil => exact ends_closeRound_nil hat
  | lone =>
    rw [encode_escape] at hat ⊢
    have hround := hscans.escape (depth' + 1) () hat
    rw [hat.tail.bump_nil] at hround
    exact .next hround Nat.one_pos (ends_closeRound_nil hat.tail)
  | closing rest =>
    rw [encode_closing] at hat
    rw [closeFrom_closing]
    refine .leave ?_
    unfold closeRound
    rw [hat.getElem?_eq]
    rfl
  | wanted _ hwanted => cases hwanted

/-- The partner of the bracket with which a text starts is found behind the characters between the
two. -/
theorem close_eq {text : String} {rest : List Char} (htext : text.toList = '[' :: rest) :
    close text =
      faultless ((Brackets.close rest).map fun found => 1 + byteLength found.1) := by
  have hbytes : bytes text = byteSigns.opening :: encode rest := by
    rw [bytes_eq_encode, htext, encode_opening]
  have hat : At (byteSigns.opening :: encode rest) 1 (encode rest) := (At.start _).tail
  unfold close Brackets.close
  have hrounds : (encode rest).length < (encode rest).length + 2 :=
    Nat.lt_add_of_pos_right (by decide)
  rw [hbytes, if_pos (List.head?_cons ..), List.length_cons, ends_closeRound rest hat _ hrounds]
  cases closeFrom 0 rest <;> rfl

end Closing

end QueryGate.Offsets
