import QueryGate.Regex.Size
import QueryGate.Regex.Token

/-!
# Reading expressions

Tokens are put together from left to right. Every group that is still open is a frame on a stack,
with its finished branches and the pieces of the branch being read; the end of a group takes its
frame off the stack and turns it into a piece of the frame below. Every piece is built together
with its plan. An expression is refused when its groups do not pair up, when a repetition has
nothing before it, when it nests too deep and when the program of its plan is too large.
-/

namespace QueryGate.Regex

/-- The flags in force. -/
structure Flags where
  /-- Case does not matter. -/
  caseless : Bool := false
  /-- Lines have starts and ends of their own. -/
  multiLine : Bool := false
  /-- The dot matches a line feed too. -/
  dotAll : Bool := false
  /-- Repetitions prefer fewer rounds unless they are lazy. -/
  swapGreed : Bool := false
  /-- The characters that classes and words are made of. -/
  repertoire : Repertoire := .unicode
  /-- What a line ends with. -/
  lineEnd : LineEnd := .feed
  deriving DecidableEq, Repr

/-- Changes one flag. Whether blanks belong to the expression matters only while tokens are read. -/
def Flags.set (flags : Flags) (setting : FlagSetting) : Flags :=
  match setting with
  | (.caseless, on) => { flags with caseless := on }
  | (.multiLine, on) => { flags with multiLine := on }
  | (.dotAll, on) => { flags with dotAll := on }
  | (.swapGreed, on) => { flags with swapGreed := on }
  | (.unicode, on) => { flags with repertoire := if on then .unicode else .ascii }
  | (.carriageReturn, on) => { flags with lineEnd := if on then .anyBreak else .feed }
  | (.verbose, _) => flags

/-- Changes flags in order. -/
def Flags.setAll (flags : Flags) (settings : List FlagSetting) : Flags :=
  settings.foldl Flags.set flags

/-- How sets are meant under the flags. -/
def Flags.sense (flags : Flags) (properties : Properties) : Sense :=
  ⟨flags.caseless, flags.repertoire, properties⟩

/-- What the dot matches. Within ASCII alone it would match parts of other characters, so it may not
stand there. -/
def Flags.dot? (flags : Flags) : Option CharSet :=
  match flags.repertoire, flags.dotAll, flags.lineEnd with
  | .ascii, _, _ => none
  | .unicode, true, _ => some .any
  | .unicode, false, .feed => some .notLineFeed
  | .unicode, false, .anyBreak => some .notLineBreak

/-- What the `^` asserts. -/
def Flags.caret (flags : Flags) : Assertion :=
  if flags.multiLine then .lineStart flags.lineEnd else .textStart

/-- What the `$` asserts. -/
def Flags.dollar (flags : Flags) : Assertion :=
  if flags.multiLine then .lineEnd flags.lineEnd else .textEnd

/-- A finished part of an expression. -/
structure Piece where
  /-- What it matches. -/
  regex : Regex
  /-- What it is simplified to. -/
  plan : Plan
  /-- The levels of nesting in it. -/
  depth : Nat
  /-- Whether a repetition may follow it. -/
  repeatable : Bool
  deriving Repr

/-- A piece that matches the empty text. -/
def Piece.empty (repeatable : Bool) : Piece :=
  ⟨.empty, .empty, 0, repeatable⟩

/-- A piece that takes one character of a set. -/
def Piece.step (set : CharSet) (repertoire : Repertoire) (depth : Nat) : Piece :=
  ⟨.step set, .ofSet set repertoire, depth, true⟩

/-- A piece that checks an assertion. -/
def Piece.assertion (a : Assertion) : Piece :=
  ⟨.assertion a, .assertion a, 0, true⟩

/-- The greatest depth among pieces. -/
def maxDepth (pieces : List Piece) : Nat :=
  (pieces.map Piece.depth).foldl max 0

/-- Pieces one after the other; two or more nest one level deeper. -/
def Piece.sequence (pieces : List Piece) : Piece :=
  let depth := maxDepth pieces
  ⟨sequenceAll (pieces.map Piece.regex), .inSequence (pieces.map Piece.plan),
    if 2 ≤ pieces.length then depth + 1 else depth, true⟩

/-- A choice between a first branch and others; two or more nest one level deeper. -/
def Piece.either (first : Piece) (others : List Piece) : Piece :=
  let depth := maxDepth (first :: others)
  ⟨eitherAll first.regex (others.map Piece.regex), .inChoice ((first :: others).map Piece.plan),
    if others.isEmpty then depth else depth + 1, true⟩

/-- A piece repeated, which nests one level deeper. -/
def Piece.inRounds (piece : Piece) (least : Nat) (most : Option Nat) (greedy : Bool) : Piece :=
  ⟨.repeated piece.regex least most, piece.plan.inRounds least most greedy, piece.depth + 1, true⟩

/-- A piece between parentheses, which nests one level deeper and may have a number. -/
def Piece.grouped (piece : Piece) (number : Option Nat) : Piece :=
  let plan := match number with
    | some n => .group n piece.plan
    | none => piece.plan
  ⟨piece.regex, plan, piece.depth + 1, true⟩

/-- A group whose end has not been read. -/
structure Frame where
  /-- Its number, if its match is remembered. -/
  number : Option Nat
  /-- The flags to return to at its end. -/
  outerFlags : Flags
  /-- The finished branches, the latest first. -/
  branches : List Piece
  /-- The pieces of the branch being read, the latest first. -/
  pieces : List Piece
  deriving Repr

/-- The frame of a group of which nothing has been read. -/
def Frame.start (number : Option Nat) (outerFlags : Flags) : Frame :=
  ⟨number, outerFlags, [], []⟩

/-- Adds a piece to the branch being read. -/
def Frame.add (frame : Frame) (piece : Piece) : Frame :=
  { frame with pieces := piece :: frame.pieces }

/-- The branch being read. -/
def Frame.branch (frame : Frame) : Piece :=
  Piece.sequence frame.pieces.reverse

/-- Starts another branch. -/
def Frame.nextBranch (frame : Frame) : Frame :=
  { frame with branches := frame.branch :: frame.branches, pieces := [] }

/-- All branches of the frame. -/
def Frame.finish (frame : Frame) : Piece :=
  match frame.branches.reverse with
  | [] => frame.branch
  | first :: others => Piece.either first (others ++ [frame.branch])

/-- Repeats the latest piece, if it may be repeated. -/
def Frame.repeatLast (frame : Frame) (least : Nat) (most : Option Nat) (greedy : Bool) :
    Option Frame :=
  match frame.pieces with
  | [] => none
  | piece :: pieces =>
    if piece.repeatable then
      some { frame with pieces := piece.inRounds least most greedy :: pieces }
    else none

/-- How far reading has come. -/
structure Reading where
  /-- The flags in force. -/
  flags : Flags
  /-- The names of groups met so far. -/
  names : List (List Char)
  /-- How many groups were given a number. -/
  groups : Nat
  /-- The innermost open group, or the whole expression. -/
  frame : Frame
  /-- The open groups around it, the innermost first. -/
  outer : List Frame
  deriving Repr

/-- Nothing read yet. -/
def Reading.start : Reading :=
  ⟨{}, [], 0, Frame.start none {}, []⟩

/-- Adds a piece to the innermost group. -/
def Reading.add (reading : Reading) (piece : Piece) : Reading :=
  { reading with frame := reading.frame.add piece }

/-- Opens a group, unless its name is taken. -/
def Reading.openGroup (reading : Reading) (remembered : Bool) (name : Option (List Char))
    (settings : List FlagSetting) : Option Reading :=
  if name.any reading.names.contains then none
  else
    let groups := if remembered then reading.groups + 1 else reading.groups
    let number := if remembered then some groups else none
    some ⟨reading.flags.setAll settings, name.toList ++ reading.names, groups,
      Frame.start number reading.flags, reading.frame :: reading.outer⟩

/-- Closes the innermost group. -/
def Reading.closeGroup (reading : Reading) : Option Reading :=
  match reading.outer with
  | [] => none
  | below :: outer =>
    let group := reading.frame.finish.grouped reading.frame.number
    some ⟨reading.frame.outerFlags, reading.names, reading.groups, below.add group, outer⟩

/-- The piece of a set, if it can be meant under the flags. -/
def Flags.setPiece? (flags : Flags) (properties : Properties) (set : SetExpr) (depth : Nat) :
    Option Piece :=
  (set.denote (flags.sense properties)).map fun set => Piece.step set flags.repertoire depth

/-- The piece of a literal character. -/
def Flags.literal (flags : Flags) (properties : Properties) (c : Char) : Piece :=
  Piece.step ((flags.sense properties).fold (.only c)) flags.repertoire 0

/-- The piece of a character, a class or an assertion, if it can be meant under the flags. A byte
beyond ASCII is no character within ASCII alone. -/
def Flags.atom? (flags : Flags) (properties : Properties) (escape : Escape) : Option Piece :=
  match escape with
  | .literal c => some (flags.literal properties c)
  | .byte c =>
    if flags.repertoire = .ascii ∧ 0x80 ≤ c.toNat then none
    else some (flags.literal properties c)
  | .shorthand kind negated =>
    flags.setPiece? properties ((SetExpr.shorthand kind).negatedIf negated) 0
  | .property name negated =>
    flags.setPiece? properties ((SetExpr.folded (.property name)).negatedIf negated) 0
  | .assertion a => some (Piece.assertion a)
  | .word check => some (Piece.assertion (.word check flags.repertoire))

/-- Takes one token in. -/
def Reading.take (properties : Properties) (reading : Reading) (token : Token) :
    Option Reading :=
  let flags := reading.flags
  match token with
  | .atom escape => (flags.atom? properties escape).map reading.add
  | .dot => flags.dot?.map fun set => reading.add (Piece.step set flags.repertoire 0)
  | .caret => some (reading.add (Piece.assertion flags.caret))
  | .dollar => some (reading.add (Piece.assertion flags.dollar))
  | .bracket nested => (flags.setPiece? properties nested.set nested.depth).map reading.add
  | .repeated least most isLazy => do
    let greedy := isLazy == flags.swapGreed
    return { reading with frame := ← reading.frame.repeatLast least most greedy }
  | .openGroup remembered name settings => reading.openGroup remembered name settings
  | .setFlags settings =>
    some { reading with
      flags := flags.setAll settings, frame := reading.frame.add (Piece.empty false) }
  | .closeGroup => reading.closeGroup
  | .bar => some { reading with frame := reading.frame.nextBranch }

/-- The greatest depth to which an expression may nest. -/
def nestLimit : Nat := 250

/-- The greatest size of the program of an expression in a constraint, in bytes. -/
def sizeLimit : Nat := Nat.pow 2 20

/-- The greatest size of the program of an expression to which no limit of its own is set, in
bytes. -/
def defaultSizeLimit : Nat := 10 * Nat.pow 2 20

/-- The piece that tokens make up, if every group is closed. -/
def pieceOfTokens? (properties : Properties) (tokens : List Token) : Option Piece := do
  let reading ← tokens.foldlM (Reading.take properties) Reading.start
  if reading.outer.isEmpty then return reading.frame.finish else none

/-- The expression that a text writes where some properties are known, or nothing when it writes
none or one beyond the limits. -/
def parseWith? (properties : Properties) (limit : Nat) (text : List Char) : Option Regex := do
  let piece ← pieceOfTokens? properties (← tokens? text)
  if piece.depth ≤ nestLimit && piece.plan.fits limit then return piece.regex else none

/-- The expression that a text writes within the limits on constraints. -/
def parse? (text : List Char) : Option Regex :=
  parseWith? .basic sizeLimit text

end QueryGate.Regex
