/-!
# Where the segments of a byte query lie

The same segments as those of a textual query, given as offsets into the caller's buffer. The
buffer need not be UTF-8.
-/

namespace QueryGate.Query

/-- The byte `&`. -/
def ampersand : UInt8 := 0x26

/-- The byte `=`. -/
def equalsSign : UInt8 := 0x3D

/-- The byte `#`. -/
def hash : UInt8 := 0x23

/-- The bytes from offset `start` up to offset `stop`, if that is a range of the buffer. -/
def slice? (buf : List UInt8) (start stop : Nat) : Option (List UInt8) :=
  if start ≤ stop && stop ≤ buf.length then some ((buf.drop start).take (stop - start)) else none

/-- Offsets of one segment inside a query buffer. -/
structure SegmentSpan where
  /-- Where the segment starts. -/
  start : Nat
  /-- Where its key ends: at its first `=`, or at its end. -/
  keyEnd : Nat
  /-- Where the segment ends. -/
  stop : Nat
  deriving DecidableEq, Repr

namespace SegmentSpan

/-- The bytes of the key; empty when the offsets do not fit the buffer. -/
def key (span : SegmentSpan) (buf : List UInt8) : List UInt8 :=
  (slice? buf span.start span.keyEnd).getD []

/-- The bytes after the `=`; empty when there is none. -/
def value (span : SegmentSpan) (buf : List UInt8) : List UInt8 :=
  if span.stop ≤ span.keyEnd then [] else (slice? buf (span.keyEnd + 1) span.stop).getD []

/-- The bytes of the whole segment. -/
def raw (span : SegmentSpan) (buf : List UInt8) : List UInt8 :=
  (slice? buf span.start span.stop).getD []

end SegmentSpan

/-- The segments of what is left of a buffer from offset `start` on. -/
def segmentSpansFrom (start : Nat) (rest : List UInt8) : List SegmentSpan :=
  match rest with
  | [] => []
  | b :: bs =>
    if b == ampersand then segmentSpansFrom (start + 1) bs
    else
      let run := (b :: bs).takeWhile (· != ampersand)
      let keyLength := (run.takeWhile (· != equalsSign)).length
      ⟨start, start + keyLength, start + run.length⟩ ::
        segmentSpansFrom (start + run.length + 1) ((b :: bs).drop (run.length + 1))
termination_by rest.length
decreasing_by
  · simp
  · simp only [List.length_drop, List.length_cons]
    omega

/-- The non-empty segments of a byte query, in order. -/
def segmentSpans (buf : List UInt8) : List SegmentSpan :=
  segmentSpansFrom 0 buf

end QueryGate.Query
