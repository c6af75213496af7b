import QueryGate.Regex.Basic
import QueryGate.Regex.Property
import QueryGate.Regex.Spacing
import QueryGate.Text.Hex

/-!
# Escapes of the expression syntax

A backslash and what follows it stand for a literal character, for a class, named by a letter or by
a property, or for an assertion. Each reader takes the text after the part already recognised and
gives back the text it did not use; a text that fits no escape is refused. What flags may still
decide is left open.
-/

namespace QueryGate.Regex

open QueryGate.Text

/-- What an escape stands for. -/
inductive Escape where
  /-- One character. -/
  | literal (c : Char)
  /-- One character, written as a byte with two digits. -/
  | byte (c : Char)
  /-- A named class or its complement. -/
  | shorthand (kind : Shorthand) (negated : Bool)
  /-- The class of a property or its complement. -/
  | property (name : PropertyName) (negated : Bool)
  /-- An assertion, which flags leave alone. -/
  | assertion (a : Assertion)
  /-- A condition on words. -/
  | word (check : WordCheck)
  deriving DecidableEq, Repr

/-! ## Code points -/

/-- The character whose code point a run of hexadecimal digits writes. -/
def charOfHex? (digits : List Char) : Option Char := do
  let n ← hexNumber? digits
  if !digits.isEmpty && Nat.isValidChar n then some (Char.ofNat n) else none

/-- Reads a number of characters, with what is passed over in front of each. -/
def readFixed (verbose : Bool) : Nat → List Char → Option (List Char × List Char)
  | 0, cs => some ([], cs)
  | n + 1, cs =>
    match skip verbose cs with
    | [] => none
    | c :: rest => (readFixed verbose n rest).map fun (more, rest) => (c :: more, rest)

/-- Behind a number of characters an end of the text is left. -/
theorem readFixed_suffix {verbose : Bool} {n : Nat} {cs read rest : List Char}
    (h : readFixed verbose n cs = some (read, rest)) : rest <:+ cs := by
  induction n generalizing cs read with
  | zero =>
    cases h
    exact List.suffix_refl _
  | succ n ih =>
    unfold readFixed at h
    split at h
    · cases h
    · next c after hskip =>
      obtain ⟨⟨more, rest'⟩, hread, heq⟩ := Option.map_eq_some_iff.mp h
      cases heq
      exact (ih hread).trans ((List.suffix_cons c after).trans (hskip ▸ skip_suffix verbose cs))

/-- The escape of a code point, unless the digits write none. Two digits alone write a byte. -/
def codePoint? (isByte : Bool) (digits : List Char) : Option Escape :=
  (charOfHex? digits).map fun c => if isByte then .byte c else .literal c

/-- Reads a code point: `width` digits, or any number of them between braces. -/
def readCodePoint (verbose : Bool) (width : Nat) (cs : List Char) : Option (Escape × List Char) :=
  match skip verbose cs with
  | '\x7b' :: rest =>
    (readBraced verbose rest).bind fun (digits, rest) => (codePoint? false digits).map (·, rest)
  | cs =>
    (readFixed verbose width cs).bind fun (digits, rest) =>
      (codePoint? (width == 2) digits).map (·, rest)

/-- Reading a code point leaves an end of the text. -/
theorem readCodePoint_suffix {verbose : Bool} {width : Nat} {cs rest : List Char}
    {escape : Escape} (h : readCodePoint verbose width cs = some (escape, rest)) :
    rest <:+ cs := by
  unfold readCodePoint at h
  split at h
  · next after hskip =>
    obtain ⟨⟨digits, after'⟩, hread, h⟩ := Option.bind_eq_some_iff.mp h
    obtain ⟨_, -, heq⟩ := Option.map_eq_some_iff.mp h
    cases heq
    exact (readBraced_suffix hread).trans
      ((List.suffix_cons _ after).trans (hskip ▸ skip_suffix verbose cs))
  · obtain ⟨⟨digits, after⟩, hread, h⟩ := Option.bind_eq_some_iff.mp h
    obtain ⟨_, -, heq⟩ := Option.map_eq_some_iff.mp h
    cases heq
    exact (readFixed_suffix hread).trans (skip_suffix verbose cs)

/-! ## Properties -/

/-- What the text between the braces of a property names, and whether it negates the class. -/
def propertyOfText (text : List Char) : PropertyName × Bool :=
  match cutAtText? ['!', '='] text with
  | some (name, value) => (.valued name value, true)
  | none =>
    match cutAt? ':' text with
    | some (name, value) => (.valued name value, false)
    | none =>
      match cutAt? '=' text with
      | some (name, value) => (.valued name value, false)
      | none => (.named text, false)

/-- The escape of a property; a class that is negated twice is not negated. -/
def Escape.ofProperty (negated : Bool) (property : PropertyName × Bool) : Escape :=
  .property property.1 (negated != property.2)

/-- Reads a property: one character, or a text between braces. -/
def readProperty (verbose negated : Bool) (cs : List Char) : Option (Escape × List Char) :=
  match skip verbose cs with
  | [] => none
  | '\\' :: _ => none
  | '\x7b' :: rest =>
    (readBraced verbose rest).map fun (text, rest) =>
      (.ofProperty negated (propertyOfText text), rest)
  | c :: rest => some (.property (.letter c) negated, rest)

/-- Reading a property leaves an end of the text. -/
theorem readProperty_suffix {verbose negated : Bool} {cs rest : List Char} {escape : Escape}
    (h : readProperty verbose negated cs = some (escape, rest)) : rest <:+ cs := by
  unfold readProperty at h
  split at h
  · cases h
  · cases h
  · next after hskip =>
    obtain ⟨⟨text, after'⟩, hread, heq⟩ := Option.map_eq_some_iff.mp h
    cases heq
    exact (readBraced_suffix hread).trans
      ((List.suffix_cons _ after).trans (hskip ▸ skip_suffix verbose cs))
  · next c after _ _ hskip =>
    cases h
    exact (List.suffix_cons c _).trans (hskip ▸ skip_suffix verbose cs)

/-! ## Word boundaries -/

/-- The characters that may name a kind of word boundary. -/
def isBoundaryNameChar (c : Char) : Bool :=
  c.isAlpha || c == '-'

/-- The kind of word boundary with a name. -/
def WordCheck.ofName? (name : List Char) : Option WordCheck :=
  match String.ofList name with
  | "start" => some .starts
  | "end" => some .ends
  | "start-half" => some .startHalf
  | "end-half" => some .endHalf
  | _ => none

/-- Reads the name of a kind of word boundary up to the brace behind it. -/
def readBoundaryName (verbose : Bool) (cs : List Char) : Option (Escape × List Char) :=
  match readRun verbose isBoundaryNameChar cs with
  | (name, '\x7d' :: rest) => (WordCheck.ofName? name).map fun check => (.word check, rest)
  | _ => none

/-- Reads what may follow the escape of a word boundary: the name of its kind between braces.
A brace that does not open a name is left for the repetition it may belong to. -/
def readBoundary (verbose : Bool) (cs : List Char) : Option (Escape × List Char) :=
  match cs with
  | '\x7b' :: rest =>
    if (skip verbose rest).head?.any isBoundaryNameChar then readBoundaryName verbose rest
    else some (.word .boundary, cs)
  | _ => some (.word .boundary, cs)

/-- Reading the name of a boundary leaves an end of the text. -/
theorem readBoundaryName_suffix {verbose : Bool} {cs rest : List Char} {escape : Escape}
    (h : readBoundaryName verbose cs = some (escape, rest)) : rest <:+ cs := by
  have hrun := readRun_suffix verbose isBoundaryNameChar cs
  unfold readBoundaryName at h
  split at h
  · next name after heq =>
    obtain ⟨check, -, heq'⟩ := Option.map_eq_some_iff.mp h
    cases heq'
    rw [heq] at hrun
    exact (List.suffix_cons _ rest).trans hrun
  · cases h

/-- Reading the kind of a boundary leaves an end of the text. -/
theorem readBoundary_suffix {verbose : Bool} {cs rest : List Char} {escape : Escape}
    (h : readBoundary verbose cs = some (escape, rest)) : rest <:+ cs := by
  unfold readBoundary at h
  split at h
  · split at h
    · exact (readBoundaryName_suffix h).trans (List.suffix_cons _ _)
    · cases h
      exact List.suffix_refl _
  · cases h
    exact List.suffix_refl _

/-! ## Escapes -/

/-- Whether a character may be escaped to stand for itself: an ASCII character that is neither a
letter nor a digit nor an angle bracket. -/
def isEscapable (c : Char) : Bool :=
  decide (c.toNat < 0x80) && !c.isAlphanum && c != '<' && c != '>'

/-- What a single character behind the backslash stands for, if nothing more belongs to it. -/
def Escape.ofChar? (c : Char) : Option Escape :=
  match c with
  | 'd' => some (.shorthand .digit false)
  | 'D' => some (.shorthand .digit true)
  | 's' => some (.shorthand .blank false)
  | 'S' => some (.shorthand .blank true)
  | 'w' => some (.shorthand .word false)
  | 'W' => some (.shorthand .word true)
  | 'a' => some (.literal '\x07')
  | 'f' => some (.literal '\x0c')
  | 't' => some (.literal '\t')
  | 'n' => some (.literal '\n')
  | 'r' => some (.literal '\r')
  | 'v' => some (.literal '\x0b')
  | 'A' => some (.assertion .textStart)
  | 'z' => some (.assertion .textEnd)
  | 'B' => some (.word .noBoundary)
  | '<' => some (.word .starts)
  | '>' => some (.word .ends)
  | _ => if isEscapable c then some (.literal c) else none

/-- Reads an escape, of which the backslash is already taken. -/
def readEscape (verbose : Bool) (cs : List Char) : Option (Escape × List Char) :=
  match cs with
  | [] => none
  | 'x' :: rest => readCodePoint verbose 2 rest
  | 'u' :: rest => readCodePoint verbose 4 rest
  | 'U' :: rest => readCodePoint verbose 8 rest
  | 'p' :: rest => readProperty verbose false rest
  | 'P' :: rest => readProperty verbose true rest
  | 'b' :: rest => readBoundary verbose rest
  | c :: rest => (Escape.ofChar? c).map fun escape => (escape, rest)

/-- Behind an escape an end of the text is left, and not all of it. -/
theorem readEscape_suffix {verbose : Bool} {c : Char} {cs rest : List Char} {escape : Escape}
    (h : readEscape verbose (c :: cs) = some (escape, rest)) : rest <:+ cs := by
  unfold readEscape at h
  split at h
  · next heq => cases heq
  · next heq =>
    cases heq
    exact readCodePoint_suffix h
  · next heq =>
    cases heq
    exact readCodePoint_suffix h
  · next heq =>
    cases heq
    exact readCodePoint_suffix h
  · next heq =>
    cases heq
    exact readProperty_suffix h
  · next heq =>
    cases heq
    exact readProperty_suffix h
  · next heq =>
    cases heq
    exact readBoundary_suffix h
  · next heq =>
    cases heq
    obtain ⟨escape, -, heq⟩ := Option.map_eq_some_iff.mp h
    cases heq
    exact List.suffix_refl _

/-! ## Writing a literal text -/

/-- Whether a character may have a meaning of its own somewhere in an expression. -/
def isMeta (c : Char) : Bool :=
  ['\\', '.', '+', '*', '?', '(', ')', '|', '[', ']', '\x7b', '\x7d', '^', '$', '#', '&', '-',
    '~'].contains c

/-- A character written so that it stands for itself. -/
def escapeChar (c : Char) : List Char :=
  if isMeta c then ['\\', c] else [c]

/-- A text written so that every character stands for itself. -/
def escape (text : List Char) : List Char :=
  text.flatMap escapeChar

end QueryGate.Regex
