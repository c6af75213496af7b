import QueryGate.Text.Blank
import QueryGate.Text.CaseFold
import QueryGate.Text.Digit
import QueryGate.Text.Word

/-!
# Sets of characters

The sets that one step of a regular expression can choose a character from. A set is kept as the
ranges of its code points, in ascending order and with something missing between two of them, so
equal sets have equal ranges.
-/

namespace QueryGate.Regex

open QueryGate.Text

/-- A range of code points, both ends included. -/
abbrev Range := Nat × Nat

/-- A set of characters. -/
structure CharSet where
  /-- The ranges of its code points, in ascending order and apart. -/
  ranges : List Range
  deriving DecidableEq, Repr

namespace CharSet

/-- The last code point. -/
def lastCodePoint : Nat := 0x10FFFF

/-- Whether one of the ranges holds `n`. They ascend, so none behind the first that starts past `n`
has to be looked at. -/
def covers : List Range → Nat → Bool
  | [], _ => false
  | (lo, hi) :: rest, n => decide (lo ≤ n) && (decide (n ≤ hi) || covers rest n)

/-- Whether a character is a member. -/
def contains (s : CharSet) (c : Char) : Bool :=
  covers s.ranges c.toNat

/-- The set without members. -/
def nothing : CharSet :=
  ⟨[]⟩

/-- Every character. -/
def any : CharSet :=
  ⟨[(0, lastCodePoint)]⟩

/-- One character. -/
def only (c : Char) : CharSet :=
  ⟨[(c.toNat, c.toNat)]⟩

/-- The characters from `lo` to `hi`, both included. -/
def between (lo hi : Char) : CharSet :=
  ⟨[(lo.toNat, hi.toNat)]⟩

/-- Every character but the line feed. -/
def notLineFeed : CharSet :=
  ⟨[(0, 0x9), (0xB, lastCodePoint)]⟩

/-- Every character but the line feed and the carriage return. -/
def notLineBreak : CharSet :=
  ⟨[(0, 0x9), (0xB, 0xC), (0xE, lastCodePoint)]⟩

/-- Whether all members are ASCII. -/
def isAscii (s : CharSet) : Bool :=
  s.ranges.all fun range => decide (range.2 < 0x80)

/-- Puts a range in front of ranges that start no earlier. It swallows those that it touches. -/
def consRange (lo hi : Nat) : List Range → List Range
  | [] => [(lo, hi)]
  | (lo', hi') :: rest =>
    if hi + 1 < lo' then (lo, hi) :: (lo', hi') :: rest else consRange lo (max hi hi') rest

/-- Joins the ranges that touch, of ranges in the order of their starts. -/
def joinTouching (ranges : List Range) : List Range :=
  ranges.foldr (fun (lo, hi) rest => consRange lo hi rest) []

/-- The ranges of two lists in the order of their starts, in which either list is. -/
def interleave : List Range → List Range → List Range
  | [], others => others
  | range :: rest, others =>
    others.takeWhile (fun other => other.1 < range.1) ++
      range :: interleave rest (others.dropWhile fun other => other.1 < range.1)

/-- The characters of either set. -/
def union (s t : CharSet) : CharSet :=
  ⟨joinTouching (interleave s.ranges t.ranges)⟩

/-- The set with these code points, which may come in any order. -/
def ofCodePoints (ns : List Nat) : CharSet :=
  ⟨joinTouching ((ns.mergeSort fun m n => decide (m ≤ n)).map fun n => (n, n))⟩

/-- The code point of the character after the one at `n`; the surrogates are no characters. -/
def next (n : Nat) : Nat :=
  if n = 0xD7FF then 0xE000 else n + 1

/-- The code point of the character before the one at `n`; the surrogates are no characters. -/
def previous (n : Nat) : Nat :=
  if n = 0xE000 then 0xD7FF else n - 1

/-- The gaps behind a range that ends at `hi`, between it and the ranges that follow. Two ranges
with nothing but the surrogates between them leave the two characters around these as their gap. -/
def gapsAfter (hi : Nat) : List Range → List Range
  | [] => if hi < lastCodePoint then [(next hi, lastCodePoint)] else []
  | (lo', hi') :: rest =>
    (min (next hi) (previous lo'), max (next hi) (previous lo')) :: gapsAfter hi' rest

/-- The characters that are not in the set. -/
def complement (s : CharSet) : CharSet :=
  match s.ranges with
  | [] => any
  | (lo, hi) :: rest => ⟨(if 0 < lo then [(0, previous lo)] else []) ++ gapsAfter hi rest⟩

/-- What two ranges have in common. -/
def overlap? (r s : Range) : Option Range :=
  if max r.1 s.1 ≤ min r.2 s.2 then some (max r.1 s.1, min r.2 s.2) else none

/-- What ascending ranges have in common with others; those that end before a range are behind it
for good. -/
def overlaps : List Range → List Range → List Range
  | [], _ => []
  | range :: rest, others =>
    let others := others.dropWhile fun other => other.2 < range.1
    (others.takeWhile fun other => other.1 ≤ range.2).filterMap (overlap? range) ++
      overlaps rest others

/-- The characters of both sets. -/
def intersection (s t : CharSet) : CharSet :=
  ⟨overlaps s.ranges t.ranges⟩

/-- What is left of the range from `lo` to `hi` without some ranges, none of which ends before
it. -/
def remainder (lo hi : Nat) : List Range → List Range
  | [] => [(lo, hi)]
  | (lo', hi') :: rest =>
    if hi < lo' then [(lo, hi)]
    else
      (if lo < lo' then [(lo, previous lo')] else []) ++
        if hi' < hi then remainder (next hi') hi rest else []

/-- What is left of ascending ranges without others. -/
def remainders : List Range → List Range → List Range
  | [], _ => []
  | range :: rest, others =>
    let others := others.dropWhile fun other => other.2 < range.1
    remainder range.1 range.2 others ++ remainders rest others

/-- The members of `s` that are not in `t`. -/
def difference (s t : CharSet) : CharSet :=
  ⟨remainders s.ranges t.ranges⟩

/-- The characters that are in one of the two sets only. -/
def symmetricDifference (s t : CharSet) : CharSet :=
  difference (union s t) (intersection s t)

/-- The items whose key lies in one of the ranges, of items in the ascending order of their keys;
no item is looked at any more behind the last range. -/
def inside {α : Type} (key : α → Nat) : List Range → List α → List α
  | _, [] => []
  | ranges, item :: rest =>
    match ranges.dropWhile fun range => range.2 < key item with
    | [] => []
    | range :: others =>
      if range.1 ≤ key item then item :: inside key (range :: others) rest
      else inside key (range :: others) rest

/-- The characters that differ at most in case from a member: what a member folds to, and what
folds to a member or to the same as a member. -/
def caseless (s : CharSet) : CharSet :=
  let targets := (inside Prod.fst s.ranges foldPairs).map Prod.snd
  let folded := s.union (ofCodePoints targets)
  let sources := (inside Prod.snd folded.ranges foldPairsByTarget).map Prod.fst
  folded.union (ofCodePoints sources)

/-- The characters that differ at most in the case of an ASCII letter from a member. -/
def asciiCaseless (s : CharSet) : CharSet :=
  let lower := (overlaps s.ranges [(0x61, 0x7A)]).map fun (lo, hi) => (lo - 0x20, hi - 0x20)
  let upper := (overlaps s.ranges [(0x41, 0x5A)]).map fun (lo, hi) => (lo + 0x20, hi + 0x20)
  (s.union ⟨lower⟩).union ⟨upper⟩

end CharSet

/-- Which characters classes and words are made of, and in which case is disregarded. -/
inductive Repertoire where
  /-- Those of all scripts. -/
  | unicode
  /-- Those of ASCII alone. -/
  | ascii
  deriving DecidableEq, Repr

/-- The classes with a short name of their own. -/
inductive Shorthand where
  /-- Decimal digits of any script. -/
  | digit
  /-- White space. -/
  | blank
  /-- Characters that make up words. -/
  | word
  deriving DecidableEq, Repr

/-- The characters of a named class. -/
def Shorthand.set : Shorthand → CharSet
  | .digit => ⟨CharSet.joinTouching (zeroDigits.map fun z => (z, z + 9))⟩
  | .blank => ⟨blankRanges⟩
  | .word => ⟨rangesOfBoundaries CharSet.lastCodePoint wordBoundaries⟩

/-- The ASCII characters of a named class. -/
def Shorthand.asciiSet : Shorthand → CharSet
  | .digit => ⟨[(0x30, 0x39)]⟩
  | .blank => ⟨[(0x09, 0x0D), (0x20, 0x20)]⟩
  | .word => ⟨[(0x30, 0x39), (0x41, 0x5A), (0x5F, 0x5F), (0x61, 0x7A)]⟩

/-- The characters of a named class within a repertoire. -/
def Shorthand.setIn (kind : Shorthand) : Repertoire → CharSet
  | .unicode => kind.set
  | .ascii => kind.asciiSet

/-- Whether a character of the repertoire is part of a word. -/
def Repertoire.isWordChar (repertoire : Repertoire) (c : Char) : Bool :=
  match repertoire with
  | .unicode => Text.isWordChar c
  | .ascii => c.isAlphanum || c == '_'

/-- The ASCII classes that may be written as a name between colons. -/
def CharSet.ofName? (name : String) : Option CharSet :=
  match name with
  | "alnum" => some ⟨[(0x30, 0x39), (0x41, 0x5A), (0x61, 0x7A)]⟩
  | "alpha" => some ⟨[(0x41, 0x5A), (0x61, 0x7A)]⟩
  | "ascii" => some ⟨[(0x00, 0x7F)]⟩
  | "blank" => some ⟨[(0x09, 0x09), (0x20, 0x20)]⟩
  | "cntrl" => some ⟨[(0x00, 0x1F), (0x7F, 0x7F)]⟩
  | "digit" => some ⟨[(0x30, 0x39)]⟩
  | "graph" => some ⟨[(0x21, 0x7E)]⟩
  | "lower" => some ⟨[(0x61, 0x7A)]⟩
  | "print" => some ⟨[(0x20, 0x7E)]⟩
  | "punct" => some ⟨[(0x21, 0x2F), (0x3A, 0x40), (0x5B, 0x60), (0x7B, 0x7E)]⟩
  | "space" => some ⟨[(0x09, 0x0D), (0x20, 0x20)]⟩
  | "upper" => some ⟨[(0x41, 0x5A)]⟩
  | "word" => some ⟨[(0x30, 0x39), (0x41, 0x5A), (0x5F, 0x5F), (0x61, 0x7A)]⟩
  | "xdigit" => some ⟨[(0x30, 0x39), (0x41, 0x46), (0x61, 0x66)]⟩
  | _ => none

end QueryGate.Regex
