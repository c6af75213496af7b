import QueryGate.Regex.CharSet

/-!
# Characters as bytes

The UTF-8 encoding of a code point, and the encodings of a range of code points as sequences of
byte ranges. A range is cut where the number of bytes changes, around the surrogates, and then
into blocks in which every byte runs through a range of its own whatever the others are.
-/

namespace QueryGate.Regex

/-- A range of bytes, both ends included. -/
abbrev ByteRange := Nat × Nat

/-- The bytes that encode a code point. -/
def utf8Encode (n : Nat) : List Nat :=
  if n < 0x80 then [n]
  else if n < 0x800 then [0xC0 + n / 64, 0x80 + n % 64]
  else if n < 0x10000 then [0xE0 + n / 4096, 0x80 + n / 64 % 64, 0x80 + n % 64]
  else [0xF0 + n / 262144, 0x80 + n / 4096 % 64, 0x80 + n / 64 % 64, 0x80 + n % 64]

/-- The ranges of code points that are encoded with equally many bytes, without the surrogates. -/
def evenlyEncoded : List Range :=
  [(0, 0x7F), (0x80, 0x7FF), (0x800, 0xD7FF), (0xE000, 0xFFFF), (0x10000, 0x10FFFF)]

/-- Cuts a range so that what begins or ends within a block of one of the sizes, which grow, lies
in that block. -/
def cutIntoBlocks : List Nat → Range → List Range
  | [], range => [range]
  | size :: sizes, (lo, hi) =>
    if lo / size = hi / size then [(lo, hi)]
    else
      let first := (lo + size - 1) / size * size
      let past := (hi + 1) / size * size
      (if lo < first then [(lo, first - 1)] else []) ++
        (if first < past then cutIntoBlocks sizes (first, past - 1) else []) ++
        if past ≤ hi then [(past, hi)] else []

/-- The sizes of the blocks of code points that share all bytes but the last one, two or three;
ASCII needs no blocks. -/
def blockSizes (range : Range) : List Nat :=
  if range.2 < 0x80 then [] else [64, 4096, 262144]

/-- The encodings of a range of code points, as sequences of byte ranges in ascending order. -/
def byteSequences (range : Range) : List (List ByteRange) :=
  (evenlyEncoded.filterMap (CharSet.overlap? range)).flatMap fun even =>
    (cutIntoBlocks (blockSizes even) even).map fun (lo, hi) => (utf8Encode lo).zip (utf8Encode hi)

end QueryGate.Regex
