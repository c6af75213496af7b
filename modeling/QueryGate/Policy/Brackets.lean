import QueryGate.Text.Cut

/-!
# Text with brackets

Rule text is cut at delimiters that stand outside all square brackets. A backslash hides the
character after it, which then is neither a bracket nor a delimiter. Text in which a bracket has
no partner is refused with the byte offset at which this shows: at a closing bracket too many, or
at the end of the text.
-/

namespace QueryGate.Brackets

open QueryGate.Text

/-- Puts text that was passed over back in front of a result: before the first of the parts found,
or into the offset of an error. -/
def keep {α : Type} (passed : List Char) :
    Except Nat (List Char × α) → Except Nat (List Char × α)
  | .ok (first, others) => .ok (passed ++ first, others)
  | .error offset => .error (byteLength passed + offset)

/-- Cuts text at every delimiter outside brackets, where `depth` brackets are open before it. The
first part is given apart from the others. -/
def splitFrom (isDelimiter : Char → Bool) (depth : Nat) :
    List Char → Except Nat (List Char × List (List Char))
  | [] => if depth = 0 then .ok ([], []) else .error 0
  | c :: rest =>
    if c = '\\' then
      match rest with
      | [] => keep [c] (splitFrom isDelimiter depth [])
      | d :: rest => keep [c, d] (splitFrom isDelimiter depth rest)
    else if c = '[' then keep [c] (splitFrom isDelimiter (depth + 1) rest)
    else if c = ']' then
      if depth = 0 then .error 0 else keep [c] (splitFrom isDelimiter (depth - 1) rest)
    else if depth = 0 && isDelimiter c then
      match splitFrom isDelimiter depth rest with
      | .ok (first, others) => .ok ([], first :: others)
      | .error offset => .error (c.utf8Size + offset)
    else keep [c] (splitFrom isDelimiter depth rest)

/-- The parts of a text between the delimiters outside brackets. -/
def split (isDelimiter : Char → Bool) (cs : List Char) : Except Nat (List (List Char)) :=
  (splitFrom isDelimiter 0 cs).map fun (first, others) => first :: others

/-- Looks for the first `needle` outside brackets, where `depth` brackets are open before the text:
the text before it and, if there is one, the text after it. Brackets behind it are not looked at. -/
def findFrom (needle : Char) (depth : Nat) :
    List Char → Except Nat (List Char × Option (List Char))
  | [] => if depth = 0 then .ok ([], none) else .error 0
  | c :: rest =>
    if c = '\\' then
      match rest with
      | [] => keep [c] (findFrom needle depth [])
      | d :: rest => keep [c, d] (findFrom needle depth rest)
    else if c = '[' then keep [c] (findFrom needle (depth + 1) rest)
    else if c = ']' then
      if depth = 0 then .error 0 else keep [c] (findFrom needle (depth - 1) rest)
    else if depth = 0 && c == needle then .ok ([], some rest)
    else keep [c] (findFrom needle depth rest)

/-- The parts of a text before and after the first `needle` outside brackets, if there is one. -/
def find (needle : Char) (cs : List Char) : Except Nat (Option (List Char × List Char)) :=
  (findFrom needle 0 cs).map fun (before, after) => after.map fun after => (before, after)

/-- Looks for the bracket that closes `depth + 1` open ones: the text before it and after it. -/
def closeFrom (depth : Nat) : List Char → Except Nat (List Char × List Char)
  | [] => .error 0
  | c :: rest =>
    if c = '\\' then
      match rest with
      | [] => keep [c] (closeFrom depth [])
      | d :: rest => keep [c, d] (closeFrom depth rest)
    else if c = '[' then keep [c] (closeFrom (depth + 1) rest)
    else if c = ']' then
      if depth = 0 then .ok ([], rest) else keep [c] (closeFrom (depth - 1) rest)
    else keep [c] (closeFrom depth rest)

/-- The text inside the bracket that a text starts with, and the text behind it. The offset of an
error counts from the bracket, which is already taken off the text. -/
def close (cs : List Char) : Except Nat (List Char × List Char) :=
  (closeFrom 0 cs).mapError (1 + ·)

/-- Cuts text at every `delimiter` that no backslash hides, and drops the backslashes. One that
ends the text stands for itself. -/
def unescapedParts (delimiter : Char) : List Char → List (List Char)
  | [] => [[]]
  | c :: rest =>
    if c = '\\' then
      match rest with
      | [] => [['\\']]
      | d :: rest => (unescapedParts delimiter rest).modifyHead (d :: ·)
    else if c = delimiter then [] :: unescapedParts delimiter rest
    else (unescapedParts delimiter rest).modifyHead (c :: ·)

end QueryGate.Brackets
