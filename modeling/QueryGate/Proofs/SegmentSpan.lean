import QueryGate.Proofs.Bytes
import QueryGate.Query.Segment

/-!
# What the offsets of a byte query stand for

The offsets found in a byte query lie inside its buffer, and what they stand for are the parts of
the buffer between its ampersands, without the empty ones, each cut at its first `=`. In the bytes
of a textual query these are the bytes of the keys and values of its segments.
-/

namespace QueryGate.Query

open QueryGate.Text

/-! ## Segments without offsets -/

/-- One non-empty segment of a byte query. -/
structure ByteSegment where
  /-- The bytes before the first `=`. -/
  key : List UInt8
  /-- The bytes after the first `=`, none when there is no `=`. -/
  value : List UInt8
  deriving DecidableEq, Repr

/-- Reads one segment: it is cut at its first `=`. -/
def ByteSegment.ofRaw (raw : List UInt8) : ByteSegment :=
  let (key, value) := (cutAt? equalsSign raw).getD (raw, [])
  ⟨key, value⟩

/-- The non-empty segments of a byte query, in order. -/
def byteSegments (query : List UInt8) : List ByteSegment :=
  ((query.splitOn ampersand).filter fun raw => !raw.isEmpty).map ByteSegment.ofRaw

/-- The bytes of a segment. -/
def Segment.toBytes (segment : Segment) : ByteSegment :=
  ⟨bytes segment.key, bytes segment.value⟩

/-- The texts of the non-empty segments of a byte query, in order. -/
def rawSegments (query : List UInt8) : List (List UInt8) :=
  (query.splitOn ampersand).filter fun raw => !raw.isEmpty

/-- The segments of a byte query are read from their texts. -/
theorem byteSegments_eq (query : List UInt8) :
    byteSegments query = (rawSegments query).map ByteSegment.ofRaw := rfl

/-- A segment is cut in its bytes as it is in its text. -/
theorem ByteSegment.ofRaw_encode (raw : List Char) :
    ofRaw (encode raw) = (Segment.ofRaw raw).toBytes := by
  unfold ofRaw Segment.ofRaw Segment.toBytes
  rw [marks_equalsSign.cutAt?_encode]
  cases cutAt? '=' raw with
  | none => simp only [Option.map_none, Option.getD_none, bytes_ofList]; rfl
  | some parts => simp only [Option.map_some, Option.getD_some, bytes_ofList]

/-- The texts of the segments of a query in its bytes are the bytes of these texts. -/
theorem rawSegments_bytes (query : String) :
    rawSegments (bytes query) =
      ((query.toList.splitOn '&').filter fun raw => !raw.isEmpty).map encode := by
  have hempty : (fun raw => !raw.isEmpty) ∘ encode = fun raw : List Char => !raw.isEmpty := by
    funext raw
    rw [Bool.eq_iff_iff]
    simp [encode_eq_nil_iff]
  unfold rawSegments
  rw [bytes_eq_encode, marks_ampersand.splitOn_encode, List.filter_map, hempty]

/-- The segments of a query in its bytes are the bytes of its segments. -/
theorem byteSegments_bytes (query : String) :
    byteSegments (bytes query) = (segments query).map Segment.toBytes := by
  unfold segments
  rw [byteSegments_eq, rawSegments_bytes, List.map_map, List.map_map]
  exact List.map_congr_left fun raw _ => ByteSegment.ofRaw_encode raw

/-- An ampersand in front separates nothing. -/
theorem rawSegments_ampersand (query : List UInt8) :
    rawSegments (ampersand :: query) = rawSegments query := by
  unfold rawSegments
  rw [List.splitOn_cons_eq_if_modifyHead, if_pos (beq_self_eq_true ampersand),
    List.filter_cons_of_neg (by simp)]

/-- The first segment goes up to the first ampersand, and the others follow behind it. -/
theorem rawSegments_append {run after : List UInt8} (hne : run ≠ []) (hrun : ampersand ∉ run)
    (hafter : ∀ b ∈ after.head?, b = ampersand) :
    rawSegments (run ++ after) = run :: rawSegments after.tail := by
  unfold rawSegments
  cases after with
  | nil =>
    rw [List.append_nil, List.splitOn_eq_singleton hrun,
      List.filter_cons_of_pos (by simpa using hne)]
    rfl
  | cons b rest =>
    obtain rfl : b = ampersand := hafter b rfl
    rw [List.splitOn_append_cons_self_of_not_mem hrun,
      List.filter_cons_of_pos (by simpa using hne), List.tail_cons]

/-! ## Offsets -/

/-- A part of a buffer that starts inside it is found at its offsets. -/
theorem slice?_of_drop {buf part rest : List UInt8} {start : Nat}
    (hdrop : buf.drop start = part ++ rest) (hstart : start ≤ buf.length) :
    slice? buf start (start + part.length) = some part := by
  have hlength := congrArg List.length hdrop
  rw [List.length_drop, List.length_append] at hlength
  unfold slice?
  rw [hdrop, Nat.add_sub_cancel_left, List.take_left, if_pos]
  rw [Bool.and_eq_true, decide_eq_true_iff, decide_eq_true_iff]
  omega

/-- A part of a buffer is found between its offsets, and nothing else is. -/
theorem slice?_eq_some_iff {buf part : List UInt8} {start stop : Nat} :
    slice? buf start stop = some part ↔
      ∃ before after, buf = before ++ part ++ after ∧ before.length = start ∧
        start + part.length = stop := by
  constructor
  · intro h
    unfold slice? at h
    split at h
    · next hrange =>
      rw [Bool.and_eq_true, decide_eq_true_iff, decide_eq_true_iff] at hrange
      obtain ⟨hle, hstop⟩ := hrange
      rw [Option.some_inj] at h
      have hrest : buf.drop stop = (buf.drop start).drop (stop - start) := by
        rw [List.drop_drop, Nat.add_sub_cancel' hle]
      refine ⟨buf.take start, buf.drop stop, ?_, ?_, ?_⟩
      · rw [← h, hrest, List.append_assoc, List.take_append_drop, List.take_append_drop]
      · rw [List.length_take]
        omega
      · rw [← h, List.length_take, List.length_drop]
        omega
    · cases h
  · rintro ⟨before, after, rfl, rfl, rfl⟩
    have hdrop : (before ++ part ++ after).drop before.length = part ++ after := by
      rw [List.append_assoc, List.drop_left]
    refine slice?_of_drop hdrop ?_
    rw [List.length_append, List.length_append]
    omega

namespace SegmentSpan

/-- What the offsets stand for in a buffer. -/
def read (span : SegmentSpan) (buf : List UInt8) : ByteSegment :=
  ⟨span.key buf, span.value buf⟩

/-- The offsets of a segment that starts at an offset and has the given text. -/
def ofRun (start : Nat) (run : List UInt8) : SegmentSpan :=
  ⟨start, start + (run.takeWhile (· != equalsSign)).length, start + run.length⟩

variable {buf after run : List UInt8} {start : Nat}

/-- The text of a segment is found at its offsets. -/
theorem raw_ofRun (hdrop : buf.drop start = run ++ after) (hstart : start ≤ buf.length) :
    (ofRun start run).raw buf = run := by
  have hslice := slice?_of_drop hdrop hstart
  unfold raw ofRun
  rw [hslice, Option.getD_some]

/-- The key of a segment lies in the buffer. -/
theorem slice?_key_ofRun (hdrop : buf.drop start = run ++ after) (hstart : start ≤ buf.length) :
    slice? buf (ofRun start run).start (ofRun start run).keyEnd =
      some (run.takeWhile (· != equalsSign)) := by
  have hkey : buf.drop start =
      run.takeWhile (· != equalsSign) ++ (run.dropWhile (· != equalsSign) ++ after) := by
    rw [← List.append_assoc, List.takeWhile_append_dropWhile, hdrop]
  exact slice?_of_drop hkey hstart

/-- The offsets of a segment stand for what its text is cut into. -/
theorem read_ofRun (hdrop : buf.drop start = run ++ after) (hstart : start ≤ buf.length) :
    (ofRun start run).read buf = ByteSegment.ofRaw run := by
  have hkey : (ofRun start run).key buf = run.takeWhile (· != equalsSign) := by
    unfold key
    rw [slice?_key_ofRun hdrop hstart, Option.getD_some]
  unfold read ByteSegment.ofRaw
  rw [hkey]
  by_cases hmem : equalsSign ∈ run
  · obtain ⟨before, rest, rfl, hbefore⟩ := List.eq_append_cons_of_mem hmem
    have hrest : buf.drop (start + before.length + 1) = rest ++ after := by
      rw [Nat.add_assoc, ← List.drop_drop, hdrop, ← List.drop_drop, List.append_assoc,
        List.drop_left]
      rfl
    have hvalue : (ofRun start (before ++ equalsSign :: rest)).value buf = rest := by
      have hstop : start + (before ++ equalsSign :: rest).length =
          start + before.length + 1 + rest.length := by
        rw [List.length_append, List.length_cons]
        omega
      have hlength := congrArg List.length hdrop
      rw [List.length_drop, List.length_append, List.length_append, List.length_cons] at hlength
      unfold value ofRun
      dsimp only
      rw [takeWhile_append_cons hbefore, hstop, if_neg (by omega),
        slice?_of_drop hrest (by omega), Option.getD_some]
    rw [hvalue, takeWhile_append_cons hbefore, cutAt?_append hbefore, Option.getD_some]
  · have hvalue : (ofRun start run).value buf = [] := by
      unfold value ofRun
      dsimp only
      rw [takeWhile_of_not_mem hmem, if_pos (Nat.le_refl _)]
    rw [hvalue, takeWhile_of_not_mem hmem, cutAt?_eq_none hmem, Option.getD_none]

end SegmentSpan

/-! ## Runs -/

/-- From an offset on a buffer goes on with a segment, and behind it with an ampersand, if with
anything. -/
structure RunAt (buf : List UInt8) (start : Nat) (run after : List UInt8) : Prop where
  /-- The segment and what is left behind it are what is left at the offset. -/
  drop_eq : buf.drop start = run ++ after
  /-- The segment is not empty. -/
  ne_nil : run ≠ []
  /-- The segment holds no ampersand. -/
  not_mem : ampersand ∉ run
  /-- The segment ends at an ampersand or with the buffer. -/
  head_eq : ∀ b ∈ after.head?, b = ampersand

/-- These are the offsets of the segments that a buffer has from an offset on. -/
inductive RunsFrom (buf : List UInt8) : Nat → List SegmentSpan → Prop
  /-- Nothing is left of the buffer. -/
  | done {start : Nat} (hend : buf.length ≤ start) : RunsFrom buf start []
  /-- An ampersand is passed over. -/
  | ampersand {start : Nat} {spans : List SegmentSpan}
      (hbyte : buf[start]? = some Query.ampersand) (hrest : RunsFrom buf (start + 1) spans) :
      RunsFrom buf start spans
  /-- A segment is found, and the ampersand that ends it is passed over with it. -/
  | run {start : Nat} {run after : List UInt8} {spans : List SegmentSpan}
      (hrun : RunAt buf start run after) (hrest : RunsFrom buf (start + run.length + 1) spans) :
      RunsFrom buf start (.ofRun start run :: spans)

/-- The offsets that are found from an offset on are those of the segments there. -/
theorem runsFrom_segmentSpansFrom {buf rest : List UInt8} {start : Nat}
    (hdrop : buf.drop start = rest) : RunsFrom buf start (segmentSpansFrom start rest) := by
  fun_induction segmentSpansFrom start rest with
  | case1 start => exact .done (List.drop_eq_nil_iff.mp hdrop)
  | case2 start b bs hb ih =>
    have hbyte : buf[start]? = some ampersand := by
      rw [← Nat.add_zero start, ← List.getElem?_drop, hdrop, ← eq_of_beq hb]
      rfl
    have hbs : buf.drop (start + 1) = bs := by
      rw [← List.drop_drop, hdrop]
      rfl
    exact .ampersand hbyte (ih hbs)
  | case3 start b bs hb run keyLength ih =>
    have hrun : RunAt buf start run ((b :: bs).dropWhile (· != ampersand)) := by
      refine ⟨?_, ?_, ?_, ?_⟩
      · rw [hdrop]
        exact List.takeWhile_append_dropWhile.symm
      · change (b :: bs).takeWhile (· != ampersand) ≠ []
        rw [List.takeWhile_cons_of_pos (by simpa using hb)]
        exact List.cons_ne_nil _ _
      · intro hmem
        simpa using List.mem_takeWhile_imp hmem
      · intro a ha
        have hstop := List.head?_dropWhile_not (· != ampersand) (b :: bs)
        rw [Option.mem_def.mp ha] at hstop
        simpa using hstop
    have hnext : buf.drop (start + run.length + 1) = (b :: bs).drop (run.length + 1) := by
      rw [Nat.add_assoc, ← List.drop_drop, hdrop]
    exact .run hrun (ih hnext)

namespace RunAt

variable {buf run after : List UInt8} {start : Nat}

/-- A segment ends in its buffer. -/
theorem add_length_le (h : RunAt buf start run after) : start + run.length ≤ buf.length := by
  have hlength := congrArg List.length h.drop_eq
  have hpos := List.length_pos_iff.mpr h.ne_nil
  rw [List.length_drop, List.length_append] at hlength
  omega

/-- A segment starts in its buffer. -/
theorem start_le (h : RunAt buf start run after) : start ≤ buf.length :=
  Nat.le_of_add_right_le h.add_length_le

/-- The first text that is left is that of the segment. -/
theorem rawSegments_drop (h : RunAt buf start run after) :
    rawSegments (buf.drop start) = run :: rawSegments (buf.drop (start + run.length + 1)) := by
  have hnext : buf.drop (start + run.length + 1) = after.tail := by
    rw [← List.drop_drop, ← List.drop_drop, h.drop_eq, List.drop_left, List.drop_one]
  rw [hnext, h.drop_eq, rawSegments_append h.ne_nil h.not_mem h.head_eq]

end RunAt

namespace RunsFrom

variable {buf : List UInt8} {start : Nat} {spans : List SegmentSpan}

/-- What the offsets stand for are the texts of the segments that are left. -/
theorem map_raw (h : RunsFrom buf start spans) :
    spans.map (·.raw buf) = rawSegments (buf.drop start) := by
  induction h with
  | done hend =>
    rw [List.drop_eq_nil_of_le hend]
    rfl
  | ampersand hbyte _ ih =>
    obtain ⟨hlt, hget⟩ := List.getElem?_eq_some_iff.mp hbyte
    rw [ih, List.drop_eq_getElem_cons hlt, hget, rawSegments_ampersand]
  | run hrun _ ih =>
    rw [List.map_cons, SegmentSpan.raw_ofRun hrun.drop_eq hrun.start_le, ih, hrun.rawSegments_drop]

/-- Every text is read as it is cut, and its key lies in the buffer. -/
theorem read_eq (h : RunsFrom buf start spans) :
    ∀ span ∈ spans, span.read buf = ByteSegment.ofRaw (span.raw buf) ∧
      slice? buf span.start span.keyEnd = some (span.key buf) := by
  induction h with
  | done => exact fun span hspan => nomatch hspan
  | ampersand _ _ ih => exact ih
  | run hrun _ ih =>
    have hkey := SegmentSpan.slice?_key_ofRun hrun.drop_eq hrun.start_le
    refine List.forall_mem_cons.mpr ⟨⟨?_, ?_⟩, ih⟩
    · rw [SegmentSpan.raw_ofRun hrun.drop_eq hrun.start_le,
        SegmentSpan.read_ofRun hrun.drop_eq hrun.start_le]
    · unfold SegmentSpan.key
      rw [hkey, Option.getD_some]

end RunsFrom

/-- The offsets found in a byte query are those of its segments. -/
theorem runsFrom_segmentSpans (query : List UInt8) : RunsFrom query 0 (segmentSpans query) :=
  runsFrom_segmentSpansFrom rfl

/-- The offsets found in a byte query stand for its segments. -/
theorem read_segmentSpans (query : List UInt8) :
    (segmentSpans query).map (·.read query) = byteSegments query := by
  have hruns := runsFrom_segmentSpans query
  have hread := List.map_congr_left fun span hspan => (hruns.read_eq span hspan).1
  rw [hread, byteSegments_eq, ← List.drop_zero (l := query), ← hruns.map_raw, List.map_map]
  rfl

/-- The key of every segment that is found in a byte query lies in it. -/
theorem slice?_of_mem_segmentSpans {query : List UInt8} {span : SegmentSpan}
    (h : span ∈ segmentSpans query) :
    slice? query span.start span.keyEnd = some (span.key query) :=
  ((runsFrom_segmentSpans query).read_eq span h).2

end QueryGate.Query
