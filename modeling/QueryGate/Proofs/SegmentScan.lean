import QueryGate.Proofs.SegmentSpan

/-!
# Scanning a byte query

A scanner knows its position in a byte query and nothing else. Each call passes over ampersands and
gives the offsets of the segment behind them, and when no byte is left it gives nothing more. In
this way it gives the runs of the query, each of them once and from left to right: the parts that
hold no ampersand and are part of no longer one. It reads the same offsets as the routine that goes
through the bytes one after the other, and in a text they stand for the bytes of its segments.
-/

namespace QueryGate.Query

open QueryGate.Text

/-! ## Runs of a buffer -/

/-- No byte between two offsets is an ampersand. -/
def Unbroken (buf : List UInt8) (start stop : Nat) : Prop :=
  ∀ place, start ≤ place → place < stop → buf[place]? ≠ some ampersand

/-- Between two offsets lies a run: bytes that are no ampersands, as many as there are in a row. -/
structure IsRun (buf : List UInt8) (start stop : Nat) : Prop where
  /-- There is a byte in the run. -/
  start_lt : start < stop
  /-- The run ends in the buffer. -/
  stop_le : stop ≤ buf.length
  /-- No byte of the run is an ampersand. -/
  unbroken : Unbroken buf start stop
  /-- No longer part of the buffer around the run is without ampersand. -/
  maximal : ∀ first last, first ≤ start → stop ≤ last → last ≤ buf.length →
    Unbroken buf first last → first = start ∧ last = stop

/-- The offsets are those of a segment: of a run, and of its first `=` or, if it has none, of its
end. -/
structure IsSegment (buf : List UInt8) (span : SegmentSpan) : Prop where
  /-- The segment is a run. -/
  run : IsRun buf span.start span.stop
  /-- The key starts with the segment. -/
  start_le : span.start ≤ span.keyEnd
  /-- The key ends in the segment. -/
  keyEnd_le : span.keyEnd ≤ span.stop
  /-- No byte of the key is a `=`. -/
  key : ∀ place, span.start ≤ place → place < span.keyEnd → buf[place]? ≠ some equalsSign
  /-- The key takes up the segment, or a `=` stands behind it. -/
  cut : span.keyEnd = span.stop ∨ buf[span.keyEnd]? = some equalsSign

/-- Behind the last byte of a run stands an ampersand, if any byte does. -/
def Closes (buf : List UInt8) (stop : Nat) : Prop :=
  ∀ b, buf[stop]? = some b → b = ampersand

/-- In front of the first byte of a run stands an ampersand, if any byte does. -/
def Opens (buf : List UInt8) (start : Nat) : Prop :=
  ∀ place, place + 1 = start → Closes buf place

variable {buf part run after : List UInt8} {start stop first last : Nat}
  {spans others : List SegmentSpan}

/-- Where an ampersand stands, a run can end. -/
theorem closes_of_ampersand (hbyte : buf[stop]? = some ampersand) : Closes buf stop := by
  intro b hb
  rw [hbyte] at hb
  exact (Option.some.inj hb).symm

/-- Behind the place where a run can end, a run can start. -/
theorem Closes.opens (h : Closes buf stop) : Opens buf (stop + 1) := by
  intro place hplace
  cases hplace
  exact h

/-- A run can start where the buffer starts. -/
theorem opens_zero (buf : List UInt8) : Opens buf 0 :=
  fun _ hplace => nomatch hplace

/-- Inside a part without ampersand no run can end. -/
theorem Unbroken.not_closes (h : Unbroken buf first last) (hend : last ≤ buf.length)
    (hle : first ≤ stop) (hlt : stop < last) : ¬Closes buf stop := by
  intro hcloses
  have hbyte := List.getElem?_eq_getElem (Nat.lt_of_lt_of_le hlt hend)
  have hampersand := hcloses _ hbyte
  rw [hampersand] at hbyte
  exact h stop hle hlt hbyte

namespace IsRun

/-- What has ampersands or the ends of the buffer on both sides is part of no longer run. -/
theorem of_borders (hlt : start < stop) (hle : stop ≤ buf.length)
    (hunbroken : Unbroken buf start stop) (hopens : Opens buf start) (hcloses : Closes buf stop) :
    IsRun buf start stop := by
  refine ⟨hlt, hle, hunbroken, ?_⟩
  intro first last hfirst hlast hend haround
  constructor
  · by_contra hne
    have hborder := hopens (start - 1) (by omega)
    exact haround.not_closes hend (by omega) (by omega) hborder
  · by_contra hne
    exact haround.not_closes hend (by omega) (by omega) hcloses

/-- Two runs that share a byte are one run. -/
theorem eq_of_overlap (h : IsRun buf start stop) (h' : IsRun buf first last) (hle : start ≤ first)
    (hlt : first < stop) : first = start ∧ last = stop := by
  -- Together they hold no ampersand, and neither of them can be made longer.
  have hboth : Unbroken buf start (max stop last) := by
    intro place hplace hplace'
    by_cases hin : place < stop
    · exact h.unbroken place hplace hin
    · exact h'.unbroken place (by omega) (by omega)
  have hstop := h.stop_le
  have hlast := h'.stop_le
  have hsame := h.maximal start (max stop last) (by omega) (by omega) (by omega) hboth
  have hsame' := h'.maximal start (max stop last) hle (by omega) (by omega) hboth
  omega

/-- A run does not start at an ampersand. -/
theorem ne_of_closes (h : IsRun buf first last) (hcloses : Closes buf stop) : first ≠ stop := by
  rintro rfl
  exact h.unbroken.not_closes h.stop_le (Nat.le_refl first) h.start_lt hcloses

end IsRun

/-- A run is cut at one offset only. -/
theorem IsSegment.keyEnd_le_keyEnd {span other : SegmentSpan} (h : IsSegment buf span)
    (h' : IsSegment buf other) (hstart : span.start = other.start) (hstop : span.stop = other.stop) :
    span.keyEnd ≤ other.keyEnd := by
  by_contra hlt
  have hle := h'.start_le
  have hend := h.keyEnd_le
  have hcut : buf[other.keyEnd]? = some equalsSign := h'.cut.resolve_left (by omega)
  exact h.key other.keyEnd (by omega) (by omega) hcut

/-- The offsets of a segment are known from those of its run. -/
theorem IsSegment.eq_of_run {span other : SegmentSpan} (h : IsSegment buf span)
    (h' : IsSegment buf other) (hstart : span.start = other.start) (hstop : span.stop = other.stop) :
    span = other := by
  have hle := h.keyEnd_le_keyEnd h' hstart hstop
  have hge := h'.keyEnd_le_keyEnd h hstart.symm hstop.symm
  have hkey : span.keyEnd = other.keyEnd := by omega
  cases span
  cases other
  cases hstart
  cases hstop
  cases hkey
  rfl

/-! ## Runs that are found -/

/-- A byte of a part of the buffer is found at its offset. -/
theorem getElem?_of_drop (hdrop : buf.drop start = part ++ after) {place : Nat}
    (hle : start ≤ place) (hlt : place < start + part.length) :
    buf[place]? = part[place - start]? := by
  have hplace : start + (place - start) = place := by omega
  rw [← hplace, ← List.getElem?_drop, hdrop, List.getElem?_append_left (by omega), hplace]

/-- Behind a part of the buffer stands the first byte of what is left. -/
theorem getElem?_behind (hdrop : buf.drop start = part ++ after) :
    buf[start + part.length]? = after.head? := by
  rw [← List.getElem?_drop, hdrop, List.getElem?_append_right (Nat.le_refl _), Nat.sub_self,
    List.head?_eq_getElem?]

namespace RunAt

/-- Behind a segment a run can end. -/
theorem closes (h : RunAt buf start run after) : Closes buf (start + run.length) := by
  intro b hb
  rw [getElem?_behind h.drop_eq] at hb
  exact h.head_eq b hb

/-- Text that starts where a run can start, and ends where one can end, is a segment. -/
theorem isSegment (h : RunAt buf start run after) (hopens : Opens buf start) :
    IsSegment buf (.ofRun start run) := by
  have hpos := List.length_pos_iff.mpr h.ne_nil
  have hunbroken : Unbroken buf start (start + run.length) := by
    intro place hle hlt hbyte
    rw [getElem?_of_drop h.drop_eq hle hlt] at hbyte
    exact h.not_mem (List.mem_of_getElem? hbyte)
  have hsplit : buf.drop start =
      run.takeWhile (· != equalsSign) ++ (run.dropWhile (· != equalsSign) ++ after) := by
    rw [← List.append_assoc, List.takeWhile_append_dropWhile, h.drop_eq]
  refine ⟨?_, Nat.le_add_right .., ?_, ?_, ?_⟩
  · exact .of_borders (Nat.lt_add_of_pos_right hpos) h.add_length_le hunbroken hopens h.closes
  · exact Nat.add_le_add_left (List.takeWhile_sublist _).length_le start
  · intro place hle hlt hbyte
    rw [getElem?_of_drop hsplit hle hlt] at hbyte
    simpa using List.mem_takeWhile_imp (List.mem_of_getElem? hbyte)
  · by_cases hmem : equalsSign ∈ run
    · obtain ⟨before, rest, rfl, hbefore⟩ := List.eq_append_cons_of_mem hmem
      have hbyte := getElem?_behind hsplit
      rw [dropWhile_append_cons hbefore] at hbyte
      exact .inr hbyte
    · left
      unfold SegmentSpan.ofRun
      rw [takeWhile_of_not_mem hmem]

end RunAt

namespace RunsFrom

/-- Only segments are found. -/
theorem isSegment (h : RunsFrom buf start spans) (hopens : Opens buf start) :
    ∀ span ∈ spans, IsSegment buf span := by
  induction h with
  | done => exact fun span hspan => nomatch hspan
  | ampersand hbyte _ ih => exact ih (closes_of_ampersand hbyte).opens
  | run hrun _ ih =>
    exact List.forall_mem_cons.mpr ⟨hrun.isSegment hopens, ih hrun.closes.opens⟩

/-- No segment is found in front of the offset where the search starts. -/
theorem start_le (h : RunsFrom buf start spans) : ∀ span ∈ spans, start ≤ span.start := by
  induction h with
  | done => exact fun span hspan => nomatch hspan
  | ampersand _ _ ih =>
    intro span hspan
    have hle := ih span hspan
    omega
  | run _ _ ih =>
    refine List.forall_mem_cons.mpr ⟨Nat.le_refl _, fun span hspan => ?_⟩
    have hle := ih span hspan
    omega

/-- Every segment is found behind the one before. -/
theorem pairwise (h : RunsFrom buf start spans) :
    spans.Pairwise fun span later => span.stop < later.start := by
  induction h with
  | done => exact .nil
  | ampersand _ _ ih => exact ih
  | run _ hrest ih => exact .cons hrest.start_le ih

/-- No run is missed. -/
theorem exists_of_isRun (h : RunsFrom buf start spans) (hopens : Opens buf start)
    (hrun : IsRun buf first last) (hle : start ≤ first) :
    ∃ span ∈ spans, span.start = first ∧ span.stop = last := by
  have hlt := hrun.start_lt
  have hlast := hrun.stop_le
  induction h with
  | done hend => omega
  | ampersand hbyte _ ih =>
    have hcloses := closes_of_ampersand hbyte
    have hne := hrun.ne_of_closes hcloses
    exact ih hcloses.opens (by omega)
  | @run start run after _ hfound _ ih =>
    -- The run shares a byte with the segment here, or starts behind the ampersand that ends it.
    by_cases hin : first < start + run.length
    · have hhere := (hfound.isSegment hopens).run
      obtain ⟨hstart, hstop⟩ := hhere.eq_of_overlap hrun hle hin
      exact ⟨_, List.mem_cons_self, hstart.symm, hstop.symm⟩
    · have hbehind := hrun.ne_of_closes hfound.closes
      obtain ⟨span, hspan, hsame⟩ := ih hfound.closes.opens (by omega)
      exact ⟨span, List.mem_cons_of_mem _ hspan, hsame⟩

end RunsFrom

/-- Offsets are found in a byte query exactly if they are those of a segment. -/
theorem mem_segmentSpans_iff {span : SegmentSpan} :
    span ∈ segmentSpans buf ↔ IsSegment buf span := by
  have hruns := runsFrom_segmentSpans buf
  have hopens := opens_zero buf
  constructor
  · exact hruns.isSegment hopens span
  · intro h
    obtain ⟨found, hfound, hstart, hstop⟩ := hruns.exists_of_isRun hopens h.run (Nat.zero_le _)
    have hsegment := hruns.isSegment hopens found hfound
    rw [← hsegment.eq_of_run h hstart hstop]
    exact hfound

/-! ## The scanner -/

/-- The first segment from a position on, and the position behind it. -/
def nextSpan? (buf : List UInt8) (position : Nat) : Option (SegmentSpan × Nat) :=
  if position < buf.length then
    let rest := buf.drop position
    let length := rest.findIdx (· == ampersand)
    let stop := position + length
    if length = 0 then nextSpan? buf (stop + 1)
    else
      let keyLength := (rest.take length).findIdx (· == equalsSign)
      some (⟨position, position + keyLength, stop⟩, stop + 1)
  else none
termination_by buf.length - position

/-- A scanner at a position gives these offsets, one after the other, and then nothing. -/
inductive Enumerates (buf : List UInt8) : Nat → List SegmentSpan → Prop
  /-- The scanner gives nothing. -/
  | done {position : Nat} (hnext : nextSpan? buf position = none) : Enumerates buf position []
  /-- The scanner gives a segment and goes on behind it. -/
  | next {position behind : Nat} {span : SegmentSpan} {spans : List SegmentSpan}
      (hnext : nextSpan? buf position = some (span, behind))
      (hrest : Enumerates buf behind spans) : Enumerates buf position (span :: spans)

namespace Enumerates

variable {position behind : Nat}

/-- A scanner gives no other offsets than it gives. -/
theorem unique (h : Enumerates buf position spans) (h' : Enumerates buf position others) :
    spans = others := by
  induction h generalizing others with
  | done hnext =>
    cases h' with
    | done => rfl
    | next hnext' => cases hnext.symm.trans hnext'
  | next hnext _ ih =>
    cases h' with
    | done hnext' => cases hnext.symm.trans hnext'
    | next hnext' hrest' =>
      cases hnext.symm.trans hnext'
      rw [ih hrest']

/-- From two positions with the same next segment on, a scanner gives the same. -/
theorem congr (hsame : nextSpan? buf position = nextSpan? buf behind)
    (h : Enumerates buf behind spans) : Enumerates buf position spans := by
  cases h with
  | done hnext => exact .done (hsame.trans hnext)
  | next hnext hrest => exact .next (hsame.trans hnext) hrest

end Enumerates

/-- As many elements are in front of a separator as the number of its place says. -/
theorem length_takeWhile_eq_findIdx {α : Type} [BEq α] (sep : α) (xs : List α) :
    (xs.takeWhile (· != sep)).length = xs.findIdx (· == sep) := by
  induction xs with
  | nil => rfl
  | cons x xs ih =>
    rw [List.findIdx_cons, List.takeWhile_cons]
    cases hx : x == sep with
    | true =>
      have hne : (x != sep) = false := by rw [bne, hx, Bool.not_true]
      simp [hne]
    | false =>
      have hne : (x != sep) = true := by rw [bne, hx, Bool.not_false]
      simp [hne, ih]

/-- The scanner passes over an ampersand. -/
theorem nextSpan?_ampersand (hbyte : buf[start]? = some ampersand) :
    nextSpan? buf start = nextSpan? buf (start + 1) := by
  obtain ⟨hlt, hget⟩ := List.getElem?_eq_some_iff.mp hbyte
  have hlength : (buf.drop start).findIdx (· == ampersand) = 0 := by
    rw [List.drop_eq_getElem_cons hlt, hget, List.findIdx_cons, beq_self_eq_true]
    rfl
  rw [nextSpan?, if_pos hlt]
  dsimp only
  rw [hlength, if_pos rfl, Nat.add_zero]

/-- The scanner gives the segment at its position and goes on behind the next ampersand. -/
theorem RunAt.nextSpan?_eq (h : RunAt buf start run after) :
    nextSpan? buf start = some (.ofRun start run, start + run.length + 1) := by
  have hpos := List.length_pos_iff.mpr h.ne_nil
  have hle := h.add_length_le
  have hlength : (run ++ after).findIdx (· == ampersand) = run.length := by
    rw [← length_takeWhile_eq_findIdx]
    cases hafter : after with
    | nil => rw [List.append_nil, takeWhile_of_not_mem h.not_mem]
    | cons b rest =>
      obtain rfl : b = ampersand := h.head_eq b (by rw [hafter]; rfl)
      rw [takeWhile_append_cons h.not_mem]
  rw [nextSpan?, if_pos (by omega)]
  dsimp only
  rw [h.drop_eq, hlength, if_neg (by omega), List.take_left, ← length_takeWhile_eq_findIdx]
  rfl

/-- The scanner gives the segments that are left. -/
theorem RunsFrom.enumerates (h : RunsFrom buf start spans) : Enumerates buf start spans := by
  induction h with
  | done hend =>
    apply Enumerates.done
    rw [nextSpan?, if_neg (by omega)]
  | ampersand hbyte _ ih => exact ih.congr (nextSpan?_ampersand hbyte)
  | run hrun _ ih => exact .next hrun.nextSpan?_eq ih

/-- From the start of a buffer on, a scanner gives the offsets that are found in it. -/
theorem enumerates_iff : Enumerates buf 0 spans ↔ spans = segmentSpans buf := by
  have hgives := (runsFrom_segmentSpans buf).enumerates
  constructor
  · intro h
    exact h.unique hgives
  · rintro rfl
    exact hgives

/-! ## Segments of a text -/

/-- In the bytes of a text the offsets stand for the bytes of its segments, of their keys and of
their values. -/
theorem map_segmentSpans_bytes (query : String) :
    (segmentSpans (bytes query)).map (fun span =>
        (span.raw (bytes query), span.key (bytes query), span.value (bytes query))) =
      (segments query).map fun segment =>
        (bytes segment.raw, bytes segment.key, bytes segment.value) := by
  have hruns := runsFrom_segmentSpans (bytes query)
  have hspan : ∀ span ∈ segmentSpans (bytes query),
      (span.raw (bytes query), span.key (bytes query), span.value (bytes query)) =
        (span.raw (bytes query), (ByteSegment.ofRaw (span.raw (bytes query))).key,
          (ByteSegment.ofRaw (span.raw (bytes query))).value) := by
    intro span hspan
    rw [← (hruns.read_eq span hspan).1]
    rfl
  have hsegment : ∀ raw : List Char, (encode raw, (ByteSegment.ofRaw (encode raw)).key,
      (ByteSegment.ofRaw (encode raw)).value) =
        (bytes (Segment.ofRaw raw).raw, bytes (Segment.ofRaw raw).key,
          bytes (Segment.ofRaw raw).value) := by
    intro raw
    rw [ByteSegment.ofRaw_encode, ← bytes_ofList]
    rfl
  have hraw := hruns.map_raw
  rw [List.drop_zero, rawSegments_bytes] at hraw
  calc (segmentSpans (bytes query)).map (fun span =>
        (span.raw (bytes query), span.key (bytes query), span.value (bytes query)))
      = ((segmentSpans (bytes query)).map (·.raw (bytes query))).map fun raw =>
          (raw, (ByteSegment.ofRaw raw).key, (ByteSegment.ofRaw raw).value) := by
        rw [List.map_map]
        exact List.map_congr_left hspan
    _ = (segments query).map fun segment =>
          (bytes segment.raw, bytes segment.key, bytes segment.value) := by
        unfold segments
        rw [hraw, List.map_map, List.map_map]
        exact List.map_congr_left fun raw _ => hsegment raw

/-- The segments of a byte query are its runs. A scanner from its start gives the offsets that are
found in it, each at one call, and comes to an end. Whatever is found is a segment and every segment
is found, each of them once and behind the one before. In the bytes of a text the offsets stand for
the bytes of its segments, of their keys and of their values. -/
theorem segments_are_the_runs :
    (∀ buf : List UInt8,
      (∀ spans, Enumerates buf 0 spans ↔ spans = segmentSpans buf) ∧
      (∀ span, span ∈ segmentSpans buf ↔ IsSegment buf span) ∧
      (segmentSpans buf).Pairwise fun span later => span.stop < later.start) ∧
    ∀ query : String,
      (segmentSpans (bytes query)).map (fun span =>
          (span.raw (bytes query), span.key (bytes query), span.value (bytes query))) =
        (segments query).map fun segment =>
          (bytes segment.raw, bytes segment.key, bytes segment.value) := by
  refine ⟨fun buf => ⟨fun spans => enumerates_iff, fun span => mem_segmentSpans_iff, ?_⟩,
    map_segmentSpans_bytes⟩
  exact (runsFrom_segmentSpans buf).pairwise

/-- In bytes that are no text, between ampersands that separate nothing, a segment with an empty key
and one without `=` are found. -/
theorem segments_are_the_runs_invalid :
    Enumerates [ampersand, ampersand, equalsSign, 0xFF, ampersand, 0x62] 0 [⟨2, 2, 4⟩, ⟨5, 6, 6⟩] ∧
      IsSegment [ampersand, ampersand, equalsSign, 0xFF, ampersand, 0x62] ⟨2, 2, 4⟩ ∧
      ¬IsSegment [ampersand, ampersand, equalsSign, 0xFF, ampersand, 0x62] ⟨3, 4, 4⟩ := by
  have hspans : segmentSpans [ampersand, ampersand, equalsSign, 0xFF, ampersand, 0x62] =
      [⟨2, 2, 4⟩, ⟨5, 6, 6⟩] := by decide +kernel
  obtain ⟨hscan, hmem, _⟩ := segments_are_the_runs.1
    [ampersand, ampersand, equalsSign, 0xFF, ampersand, 0x62]
  rw [hspans] at hscan hmem
  exact ⟨(hscan _).mpr rfl, (hmem _).mp (by decide), mt (hmem _).mpr (by decide)⟩

end QueryGate.Query
