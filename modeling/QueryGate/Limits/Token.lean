import QueryGate.Text.Cut
import QueryGate.Text.Hex

/-!
# Tokens of JSON text

Strict JSON as a sequence of tokens: brackets, commas, colons, strings, numbers and the three
words. Between tokens only spaces, tabs and line ends may stand. A string carries its text when
its escapes write one; an unpaired surrogate is well-formed but writes no text.
-/

namespace QueryGate.Limits

open QueryGate.Text

/-- A token of JSON text. -/
inductive Token where
  /-- An opening brace. -/
  | openObject
  /-- A closing brace. -/
  | closeObject
  /-- An opening bracket. -/
  | openArray
  /-- A closing bracket. -/
  | closeArray
  /-- A comma. -/
  | comma
  /-- A colon. -/
  | colon
  /-- A string, with its text if it writes one. -/
  | string (text : Option (List Char))
  /-- A number as written. -/
  | number (text : List Char)
  /-- One of the words `true`, `false` and `null`. -/
  | word
  deriving DecidableEq, Repr

/-- Whether a character may stand between tokens. -/
def isSpace (c : Char) : Bool :=
  c == ' ' || c == '\t' || c == '\n' || c == '\r'

/-- The character that a one-letter escape stands for. -/
def shortEscape? : Char → Option Char
  | '"' => some '"'
  | '\\' => some '\\'
  | '/' => some '/'
  | 'b' => some '\x08'
  | 'f' => some '\x0c'
  | 'n' => some '\n'
  | 'r' => some '\r'
  | 't' => some '\t'
  | _ => none

/-- What a string is made of. -/
inductive StringPart where
  /-- A character. -/
  | char (c : Char)
  /-- A 16-bit code unit, given by its number. -/
  | unit (n : Nat)
  deriving DecidableEq, Repr

/-- Reads the rest of a string up to its closing quote. -/
def readString : List Char → Option (List StringPart × List Char)
  | [] => none
  | '"' :: rest => some ([], rest)
  | '\\' :: 'u' :: a :: b :: c :: d :: rest => do
    let n ← hexNumber? [a, b, c, d]
    let (parts, rest) ← readString rest
    return (.unit n :: parts, rest)
  | '\\' :: c :: rest => do
    let e ← shortEscape? c
    let (parts, rest) ← readString rest
    return (.char e :: parts, rest)
  | c :: rest =>
    if c == '\\' || c.toNat < 0x20 then none
    else do
      let (parts, rest) ← readString rest
      return (.char c :: parts, rest)

/-- Reading the rest of a string uses text up. -/
theorem length_readString_lt {cs rest : List Char} {parts : List StringPart}
    (h : readString cs = some (parts, rest)) : rest.length < cs.length := by
  fun_induction readString cs generalizing parts rest with
  | case1 => cases h
  | case2 =>
    cases h
    exact Nat.lt_succ_self _
  | case3 a b c d after ih =>
    simp only [Option.bind_eq_bind, Option.bind_eq_some_iff] at h
    obtain ⟨n, -, ⟨more, after'⟩, hmore, h⟩ := h
    have hlt := ih hmore
    cases h
    simp only [List.length_cons]
    omega
  | case4 c after _ ih =>
    simp only [Option.bind_eq_bind, Option.bind_eq_some_iff] at h
    obtain ⟨e, -, ⟨more, after'⟩, hmore, h⟩ := h
    have hlt := ih hmore
    cases h
    simp only [List.length_cons]
    omega
  | case5 => cases h
  | case6 c after _ _ _ _ ih =>
    simp only [Option.bind_eq_bind, Option.bind_eq_some_iff] at h
    obtain ⟨⟨more, after'⟩, hmore, h⟩ := h
    have hlt := ih hmore
    cases h
    exact Nat.lt_succ_of_lt hlt

/-- The text that the parts of a string write: a pair of surrogates is one character, and a
surrogate without partner writes none. -/
def textOfParts? : List StringPart → Option (List Char)
  | [] => some []
  | .char c :: rest => do return c :: (← textOfParts? rest)
  | .unit n :: rest =>
    if 0xD800 ≤ n && n < 0xDC00 then
      match rest with
      | .unit m :: rest =>
        if 0xDC00 ≤ m && m < 0xE000 then do
          return Char.ofNat (0x10000 + 0x400 * (n - 0xD800) + (m - 0xDC00)) ::
            (← textOfParts? rest)
        else none
      | _ => none
    else if 0xDC00 ≤ n && n < 0xE000 then none
    else do return Char.ofNat n :: (← textOfParts? rest)

/-- Takes at least one digit. -/
def takeDigits (cs : List Char) : Option (List Char × List Char) :=
  let digits := cs.takeWhile Char.isDigit
  if digits.isEmpty then none else some (digits, cs.dropWhile Char.isDigit)

/-- Taking digits uses text up. -/
theorem length_takeDigits_lt {cs digits rest : List Char}
    (h : takeDigits cs = some (digits, rest)) : rest.length < cs.length := by
  have hsplit := congrArg List.length
    (List.takeWhile_append_dropWhile (p := Char.isDigit) (l := cs))
  rw [List.length_append] at hsplit
  unfold takeDigits at h
  dsimp only at h
  split at h
  · cases h
  · next hne =>
    have hpos : 0 < (cs.takeWhile Char.isDigit).length :=
      List.length_pos_iff.2 fun hnil => hne (List.isEmpty_iff.2 hnil)
    cases h
    omega

/-- Reads the digits before the point: a zero alone, or digits that do not start with one. -/
def readWhole (cs : List Char) : Option (List Char × List Char) :=
  match takeDigits cs with
  | some ('0' :: _ :: _, _) => none
  | taken => taken

/-- Reading the digits before the point uses text up. -/
theorem length_readWhole_lt {cs digits rest : List Char}
    (h : readWhole cs = some (digits, rest)) : rest.length < cs.length := by
  unfold readWhole at h
  split at h
  · cases h
  · exact length_takeDigits_lt h

/-- Reads a fraction with its point, or nothing. -/
def readFraction (cs : List Char) : Option (List Char × List Char) :=
  match cs with
  | '.' :: rest => (takeDigits rest).map fun (digits, rest) => ('.' :: digits, rest)
  | _ => some ([], cs)

/-- Reading a fraction leaves no more text than there was. -/
theorem length_readFraction_le {cs text rest : List Char}
    (h : readFraction cs = some (text, rest)) : rest.length ≤ cs.length := by
  unfold readFraction at h
  split at h
  · obtain ⟨⟨digits, after⟩, hdigits, h⟩ := Option.map_eq_some_iff.1 h
    cases h
    exact Nat.le_succ_of_le (Nat.le_of_lt (length_takeDigits_lt hdigits))
  · cases h
    exact Nat.le_refl _

/-- Splits a sign of an exponent off. -/
def splitExponentSign (cs : List Char) : List Char × List Char :=
  match cs with
  | '+' :: rest => (['+'], rest)
  | '-' :: rest => (['-'], rest)
  | _ => ([], cs)

/-- Splitting a sign off leaves no more text than there was. -/
theorem length_splitExponentSign_le (cs : List Char) :
    (splitExponentSign cs).2.length ≤ cs.length := by
  unfold splitExponentSign
  split
  · exact Nat.le_succ _
  · exact Nat.le_succ _
  · exact Nat.le_refl _

/-- Reads an exponent with its letter, or nothing. -/
def readExponent (cs : List Char) : Option (List Char × List Char) :=
  match cs with
  | [] => some ([], cs)
  | e :: rest =>
    if e == 'e' || e == 'E' then
      let (sign, rest) := splitExponentSign rest
      (takeDigits rest).map fun (digits, rest) => (e :: sign ++ digits, rest)
    else some ([], cs)

/-- Reading an exponent leaves no more text than there was. -/
theorem length_readExponent_le {cs text rest : List Char}
    (h : readExponent cs = some (text, rest)) : rest.length ≤ cs.length := by
  unfold readExponent at h
  split at h
  · cases h
    exact Nat.le_refl _
  · next e after =>
    split at h
    · have hsign := length_splitExponentSign_le after
      obtain ⟨⟨digits, after'⟩, hdigits, h⟩ := Option.map_eq_some_iff.1 h
      have hlt : after'.length < (splitExponentSign after).2.length := length_takeDigits_lt hdigits
      cases h
      simp only [List.length_cons]
      omega
    · cases h
      exact Nat.le_refl _

/-- Reads a number without sign: digits without a superfluous zero, an optional fraction and an
optional exponent. -/
def readMagnitude (cs : List Char) : Option (List Char × List Char) := do
  let (whole, rest) ← readWhole cs
  let (fraction, rest) ← readFraction rest
  let (exponent, rest) ← readExponent rest
  return (whole ++ fraction ++ exponent, rest)

/-- Reading a number uses text up. -/
theorem length_readMagnitude_lt {cs text rest : List Char}
    (h : readMagnitude cs = some (text, rest)) : rest.length < cs.length := by
  simp only [readMagnitude, Option.bind_eq_bind, Option.bind_eq_some_iff] at h
  obtain ⟨⟨whole, afterWhole⟩, hwhole, ⟨fraction, afterFraction⟩, hfraction,
    ⟨exponent, afterExponent⟩, hexponent, h⟩ := h
  have hlt := length_readWhole_lt hwhole
  have hle := length_readFraction_le hfraction
  have hle' := length_readExponent_le hexponent
  cases h
  exact Nat.lt_of_le_of_lt hle' (Nat.lt_of_le_of_lt hle hlt)

/-- Reads the rest of a word. -/
def readWord (letters : String) (cs : List Char) : Option (Token × List Char) :=
  (letters.toList.isPrefixOf? cs).map fun rest => (.word, rest)

/-- Reading a word leaves no more text than there was. -/
theorem length_readWord_le {letters : String} {cs rest : List Char} {token : Token}
    (h : readWord letters cs = some (token, rest)) : rest.length ≤ cs.length := by
  obtain ⟨after, hafter, h⟩ := Option.map_eq_some_iff.1 h
  cases h
  rw [isPrefixOf?_eq_some_iff.1 hafter, List.length_append]
  omega

/-- Reads the next token, which starts with `c`. -/
def readToken (c : Char) (cs : List Char) : Option (Token × List Char) :=
  match c with
  | '\x7b' => some (.openObject, cs)
  | '\x7d' => some (.closeObject, cs)
  | '[' => some (.openArray, cs)
  | ']' => some (.closeArray, cs)
  | ',' => some (.comma, cs)
  | ':' => some (.colon, cs)
  | '"' => (readString cs).map fun (parts, rest) => (.string (textOfParts? parts), rest)
  | 't' => readWord "rue" cs
  | 'f' => readWord "alse" cs
  | 'n' => readWord "ull" cs
  | '-' => (readMagnitude cs).map fun (text, rest) => (.number ('-' :: text), rest)
  | _ => (readMagnitude (c :: cs)).map fun (text, rest) => (.number text, rest)

/-- Reading a token that starts with a given character leaves no more text than follows it. -/
theorem length_readToken_le {c : Char} {cs rest : List Char} {token : Token}
    (h : readToken c cs = some (token, rest)) : rest.length ≤ cs.length := by
  unfold readToken at h
  split at h
  · cases h
    exact Nat.le_refl _
  · cases h
    exact Nat.le_refl _
  · cases h
    exact Nat.le_refl _
  · cases h
    exact Nat.le_refl _
  · cases h
    exact Nat.le_refl _
  · cases h
    exact Nat.le_refl _
  · obtain ⟨⟨parts, after⟩, hstring, h⟩ := Option.map_eq_some_iff.1 h
    cases h
    exact Nat.le_of_lt (length_readString_lt hstring)
  · exact length_readWord_le h
  · exact length_readWord_le h
  · exact length_readWord_le h
  · obtain ⟨⟨text, after⟩, hnumber, h⟩ := Option.map_eq_some_iff.1 h
    cases h
    exact Nat.le_of_lt (length_readMagnitude_lt hnumber)
  · obtain ⟨⟨text, after⟩, hnumber, h⟩ := Option.map_eq_some_iff.1 h
    cases h
    exact Nat.le_of_lt_succ (length_readMagnitude_lt hnumber)

/-- The tokens of JSON text. -/
def tokens? (cs : List Char) : Option (List Token) :=
  match cs with
  | [] => some []
  | c :: rest =>
    if isSpace c then tokens? rest
    else
      match _h : readToken c rest with
      | none => none
      | some (token, after) => (tokens? after).map (token :: ·)
termination_by cs.length
decreasing_by
  · exact Nat.lt_succ_self rest.length
  · exact Nat.lt_succ_of_le (length_readToken_le _h)

end QueryGate.Limits
