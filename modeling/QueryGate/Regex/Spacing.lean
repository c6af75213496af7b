import QueryGate.Text.Blank
import QueryGate.Text.Cut

/-!
# Blanks and comments between the parts of an expression

An expression may be written so that blanks are no part of it. They are then passed over wherever a
part may start, and so are comments, which go from a `#` to the end of their line.
-/

namespace QueryGate.Regex

open QueryGate.Text

/-- The text behind leading blanks and comments; it may start within a comment. -/
def skipFrom (inComment : Bool) : List Char → List Char
  | [] => []
  | c :: cs =>
    if inComment then skipFrom (c != '\n') cs
    else if isBlank c then skipFrom false cs
    else if c == '#' then skipFrom true cs
    else c :: cs

/-- The text from its first part on, which is all of it where blanks are parts. -/
def skip (verbose : Bool) (cs : List Char) : List Char :=
  if verbose then skipFrom false cs else cs

/-- Behind blanks and comments an end of the text is left. -/
theorem skipFrom_suffix (inComment : Bool) (cs : List Char) : skipFrom inComment cs <:+ cs := by
  induction cs generalizing inComment with
  | nil => exact List.suffix_refl _
  | cons c cs ih =>
    unfold skipFrom
    split
    · exact (ih _).trans (List.suffix_cons c cs)
    split
    · exact (ih _).trans (List.suffix_cons c cs)
    split
    · exact (ih _).trans (List.suffix_cons c cs)
    · exact List.suffix_refl _

/-- What is passed over stands in front of the rest. -/
theorem skip_suffix (verbose : Bool) (cs : List Char) : skip verbose cs <:+ cs := by
  unfold skip
  split
  · exact skipFrom_suffix false cs
  · exact List.suffix_refl cs

/-- What is left behind the first part is shorter than the text. -/
theorem length_lt_of_skip {verbose : Bool} {c : Char} {cs rest : List Char}
    (h : skip verbose cs = c :: rest) : rest.length < cs.length := by
  have hle := (skip_suffix verbose cs).length_le
  rw [h, List.length_cons] at hle
  omega

/-- The character in front of which a `-` would have to stand to be no sign of a range. Blanks are
passed over before it, and so is the sign of a comment, but not the comment. -/
def peekPast (verbose : Bool) (cs : List Char) : Option Char :=
  if verbose then
    match trimStart cs with
    | '#' :: comment => (trimStart comment).head?
    | rest => rest.head?
  else cs.head?

/-- The run of characters of a kind at the start of a text, with what is passed over in between, and
what is left from the next part on. -/
def readRun (verbose : Bool) (p : Char → Bool) (cs : List Char) : List Char × List Char :=
  match _h : skip verbose cs with
  | [] => ([], [])
  | c :: rest =>
    if p c then
      let (run, rest) := readRun verbose p rest
      (c :: run, rest)
    else ([], c :: rest)
termination_by cs.length
decreasing_by exact length_lt_of_skip _h

/-- Behind a run an end of the text is left. -/
theorem readRun_suffix (verbose : Bool) (p : Char → Bool) (cs : List Char) :
    (readRun verbose p cs).2 <:+ cs := by
  fun_induction readRun verbose p cs with
  | case1 cs => exact List.nil_suffix
  | case2 cs c rest hskip hp run after hrun ih =>
    have hrest : rest <:+ cs := (List.suffix_cons c rest).trans (hskip ▸ skip_suffix verbose cs)
    rw [hrun] at ih
    exact ih.trans hrest
  | case3 cs c rest hskip => exact hskip ▸ skip_suffix verbose cs

/-- Reads the characters up to a closing brace, with what is passed over in between. -/
def readBraced (verbose : Bool) (cs : List Char) : Option (List Char × List Char) :=
  match _h : skip verbose cs with
  | [] => none
  | c :: rest =>
    if c == '\x7d' then some ([], rest)
    else (readBraced verbose rest).map fun (inner, rest) => (c :: inner, rest)
termination_by cs.length
decreasing_by exact length_lt_of_skip _h

/-- Behind a closing brace an end of the text is left. -/
theorem readBraced_suffix {verbose : Bool} {cs inner rest : List Char}
    (h : readBraced verbose cs = some (inner, rest)) : rest <:+ cs := by
  fun_induction readBraced verbose cs generalizing inner rest with
  | case1 => cases h
  | case2 cs c after hskip =>
    cases h
    exact (List.suffix_cons c _).trans (hskip ▸ skip_suffix verbose cs)
  | case3 cs c after hskip _ ih =>
    obtain ⟨⟨inner', rest'⟩, hread, heq⟩ := Option.map_eq_some_iff.mp h
    cases heq
    exact (ih hread).trans ((List.suffix_cons c after).trans (hskip ▸ skip_suffix verbose cs))

end QueryGate.Regex
