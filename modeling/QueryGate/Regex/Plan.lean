import QueryGate.Regex.Basic

/-!
# Plans of expressions

Before an expression is laid out as a program, it is simplified. Characters in a row become one
literal, a sequence within a sequence and a choice within a choice are dissolved, a choice between
single characters or between sets becomes one set, what all branches start with is taken out in
front, and a repetition of what can only match the empty text happens at most once. The result is
a plan. It matters only for the size of the program.
-/

namespace QueryGate.Regex

/-- A simplified expression. -/
inductive Plan where
  /-- Matches the empty text. -/
  | empty
  /-- Matches the characters in a row, of which there is at least one. -/
  | literal (cs : List Char)
  /-- Matches one character of the set, which has none or more than one. Sets meant within different
  repertoires are not the same. -/
  | set (s : CharSet) (repertoire : Repertoire)
  /-- Matches the empty text where the assertion holds. -/
  | assertion (a : Assertion)
  /-- Repeats the plan and prefers more rounds if it is greedy. -/
  | repeated (r : Plan) (least : Nat) (most : Option Nat) (greedy : Bool)
  /-- Matches the plan and remembers where, under a number. -/
  | group (index : Nat) (r : Plan)
  /-- Matches two plans or more one after the other. -/
  | sequence (rs : List Plan)
  /-- Matches one of two plans or more. -/
  | choice (rs : List Plan)
  deriving Repr

namespace Plan

mutual

/-- Whether two plans are the same. -/
def same : Plan → Plan → Bool
  | empty, empty => true
  | literal cs, literal ds => cs == ds
  | set s repertoire, set t repertoire' => s == t && repertoire == repertoire'
  | assertion a, assertion b => a == b
  | repeated r least most greedy, repeated s least' most' greedy' =>
    r.same s && least == least' && most == most' && greedy == greedy'
  | group index r, group index' s => index == index' && r.same s
  | sequence rs, sequence ss => sameAll rs ss
  | choice rs, choice ss => sameAll rs ss
  | _, _ => false

/-- Whether two lists hold the same plans. -/
def sameAll : List Plan → List Plan → Bool
  | [], [] => true
  | r :: rs, s :: ss => r.same s && sameAll rs ss
  | _, _ => false

end

mutual

/-- Whether the plan matches nothing but the empty text. -/
def isWidthless : Plan → Bool
  | empty => true
  | literal _ => false
  | set _ _ => false
  | assertion _ => true
  | repeated r _ most _ => most.isSome && r.isWidthless
  | group _ r => r.isWidthless
  | sequence rs => allWidthless rs
  | choice rs => allWidthless rs

/-- Whether all plans match nothing but the empty text. -/
def allWidthless : List Plan → Bool
  | [] => true
  | r :: rs => r.isWidthless && allWidthless rs

end

/-- The sum of two lengths, if both are known. -/
def addLengths (m n : Option Nat) : Option Nat := do
  return (← m) + (← n)

/-- The smaller of two lengths, if both are known. -/
def minLengths (m n : Option Nat) : Option Nat := do
  return min (← m) (← n)

mutual

/-- The least number of characters of a match; nothing is known where a set without members takes
part. -/
def minLength : Plan → Option Nat
  | empty => some 0
  | literal cs => some cs.length
  | set s _ => if s.ranges.isEmpty then none else some 1
  | assertion _ => some 0
  | repeated r least _ _ => r.minLength.map (least * ·)
  | group _ r => r.minLength
  | sequence rs => sumOfMinLengths rs
  | choice [] => none
  | choice (r :: rs) => leastMinLength r.minLength rs

/-- The least number of characters of a match of all plans in a row. -/
def sumOfMinLengths : List Plan → Option Nat
  | [] => some 0
  | r :: rs => addLengths r.minLength (sumOfMinLengths rs)

/-- The smallest of a length and those of the plans. -/
def leastMinLength (length : Option Nat) : List Plan → Option Nat
  | [] => length
  | r :: rs => leastMinLength (minLengths length r.minLength) rs

end

/-- The plan of a step over one character: with a single member it is a literal. -/
def ofSet (s : CharSet) (repertoire : Repertoire) : Plan :=
  match s.ranges with
  | [(lo, hi)] => if lo = hi then literal [Char.ofNat lo] else set s repertoire
  | _ => set s repertoire

/-- What the plan consists of, as a list of plans in a row. -/
def parts : Plan → List Plan
  | empty => []
  | sequence rs => rs
  | r => [r]

/-- Puts a plan in front of others and joins two literals that meet. -/
def consPart (r : Plan) (rs : List Plan) : List Plan :=
  match r, rs with
  | literal cs, literal ds :: rest => literal (cs ++ ds) :: rest
  | _, _ => r :: rs

/-- The plan of plans one after the other. -/
def inSequence (rs : List Plan) : Plan :=
  match (rs.flatMap parts).foldr consPart [] with
  | [] => empty
  | [r] => r
  | rs => sequence rs

/-- The branches that the plan chooses from. -/
def branches : Plan → List Plan
  | choice rs => rs
  | r => [r]

/-- The character of a literal that has only one. -/
def singleChar? : Plan → Option Char
  | literal [c] => some c
  | _ => none

/-- The set of a plan that is one. -/
def set? : Plan → Option CharSet
  | set s _ => some s
  | _ => none

/-- The one set that branches come to, if all are single characters or all are sets. -/
def joinedSet? (rs : List Plan) : Option CharSet :=
  match rs.mapM singleChar? with
  | some cs => some (CharSet.ofCodePoints (cs.map Char.toNat))
  | none => (rs.mapM set?).map fun sets => sets.foldl CharSet.union CharSet.nothing

/-- The plan of a choice from branches none of which is a choice, with nothing taken out. -/
def joinBranches (rs : List Plan) : Plan :=
  match rs with
  | [r] => r
  | _ =>
    match joinedSet? rs with
    | some s => ofSet s .unicode
    | none => choice rs

/-- What two lists of plans start with alike. -/
def commonPrefix : List Plan → List Plan → List Plan
  | r :: rs, s :: ss => if r.same s then r :: commonPrefix rs ss else []
  | _, _ => []

/-- The plans of a sequence. -/
def sequence? : Plan → Option (List Plan)
  | sequence rs => some rs
  | _ => none

/-- What all plans start with, if all of them are sequences. -/
def sharedStart (rs : List Plan) : List Plan :=
  match rs.mapM sequence? with
  | some (first :: others) => others.foldl commonPrefix first
  | _ => []

/-- The plan of a choice. What all branches start with comes first, and the choice is made between
the rests. -/
def inChoice (rs : List Plan) : Plan :=
  let rs := rs.flatMap branches
  match joinBranches rs with
  | choice rs =>
    match sharedStart rs with
    | [] => choice rs
    | start =>
      let rests := rs.map fun r => inSequence (r.parts.drop start.length)
      inSequence (start ++ [joinBranches (rests.flatMap branches)])
  | r => r

/-- The plan of a repetition. What matches only the empty text is repeated at most once. -/
def inRounds (r : Plan) (least : Nat) (most : Option Nat) (greedy : Bool) : Plan :=
  let (least, most) :=
    if r.isWidthless then (min least 1, some (min (most.getD 1) 1)) else (least, most)
  if least = 0 && most = some 0 then empty
  else if least = 1 && most = some 1 then r
  else repeated r least most greedy

mutual

/-- Whether every match of the plan starts at the start of the text, as far as its form shows. -/
def startsAtStart : Plan → Bool
  | assertion a => a == .textStart
  | repeated r least _ _ => least != 0 && r.startsAtStart
  | group _ r => r.startsAtStart
  | sequence rs => firstStartsAtStart rs
  | choice rs => allStartAtStart rs
  | _ => false

/-- Whether one of the plans fixes the start before a character is taken. -/
def firstStartsAtStart : List Plan → Bool
  | [] => false
  | r :: rs => r.startsAtStart || (r.isWidthless && firstStartsAtStart rs)

/-- Whether every match of each plan starts at the start of the text. -/
def allStartAtStart : List Plan → Bool
  | [] => true
  | r :: rs => r.startsAtStart && allStartAtStart rs

end

mutual

/-- Whether every match of the plan ends at the end of the text, as far as its form shows. -/
def endsAtEnd : Plan → Bool
  | assertion a => a == .textEnd
  | repeated r least _ _ => least != 0 && r.endsAtEnd
  | group _ r => r.endsAtEnd
  | sequence rs => lastEndsAtEnd rs
  | choice rs => allEndAtEnd rs
  | _ => false

/-- Whether one of the plans fixes the end after the last character is taken. -/
def lastEndsAtEnd : List Plan → Bool
  | [] => false
  | r :: rs => lastEndsAtEnd rs || (allWidthless rs && r.endsAtEnd)

/-- Whether every match of each plan ends at the end of the text. -/
def allEndAtEnd : List Plan → Bool
  | [] => true
  | r :: rs => r.endsAtEnd && allEndAtEnd rs

end

end Plan

end QueryGate.Regex
