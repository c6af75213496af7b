/-!
# Cutting text at a separator

A text is cut in two at the first occurrence of a separator; the separator itself belongs to
neither part. The same operation serves characters and bytes.
-/

namespace QueryGate.Text

/-- The parts before and after the first `sep`, or nothing when `sep` does not occur. -/
def cutAt? {α : Type} [BEq α] (sep : α) (xs : List α) : Option (List α × List α) :=
  match xs.dropWhile (· != sep) with
  | [] => none
  | _ :: after => some (xs.takeWhile (· != sep), after)

/-- A text starts with another one exactly when it is that one followed by what is left. -/
theorem isPrefixOf?_eq_some_iff {start cs rest : List Char} :
    start.isPrefixOf? cs = some rest ↔ cs = start ++ rest := by
  induction start generalizing cs with
  | nil =>
    change some cs = some rest ↔ cs = rest
    exact Option.some_inj
  | cons c start ih =>
    cases cs with
    | nil =>
      change none = some rest ↔ [] = c :: (start ++ rest)
      simp
    | cons d cs =>
      change (if c == d then start.isPrefixOf? cs else none) = some rest ↔
        d :: cs = c :: (start ++ rest)
      by_cases hd : c = d
      · simp [hd, ih]
      · simp [hd, Ne.symm hd]

/-- The parts before and after the first occurrence of the text `sep`. -/
def cutAtText? (sep : List Char) : List Char → Option (List Char × List Char)
  | [] => if sep.isEmpty then some ([], []) else none
  | c :: cs =>
    match sep.isPrefixOf? (c :: cs) with
    | some after => some ([], after)
    | none => (cutAtText? sep cs).map fun (before, after) => (c :: before, after)

/-- The text with the trailing run of `c` removed. -/
def dropTrailing (c : Char) (cs : List Char) : List Char :=
  (cs.reverse.dropWhile (· == c)).reverse

/-- The number of bytes a text takes in UTF-8. -/
def byteLength (cs : List Char) : Nat :=
  cs.foldr (fun c length => c.utf8Size + length) 0

end QueryGate.Text
