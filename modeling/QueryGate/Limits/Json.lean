import QueryGate.Limits.Basic
import QueryGate.Limits.Token
import QueryGate.Text.Numeral
import QueryGate.Text.Utf8

/-!
# Limits as JSON text

Limits are written as an object from names to whole numbers, or as an array of the numbers in
order. What is missing keeps its default. An object may name other things, whose values may be
any JSON; a limit may not be named twice.
-/

namespace QueryGate.Limits

/-- What has to come next inside a value that is passed over. -/
inductive Expected where
  /-- A value. -/
  | value
  /-- A value, or the end of an empty array. -/
  | valueOrEnd
  /-- A key. -/
  | key
  /-- A key, or the end of an empty object. -/
  | keyOrEnd
  /-- The colon after a key. -/
  | colon
  /-- A comma, or the end of the array or object. -/
  | commaOrEnd
  deriving DecidableEq, Repr

/-- An array or an object that is still open. -/
inductive Container where
  /-- An array. -/
  | array
  /-- An object. -/
  | object
  deriving DecidableEq, Repr

/-- One step through a value that is passed over: what comes next and which containers are open
after a token. -/
def passToken (expected : Expected) (opened : List Container) (token : Token) :
    Option (Expected × List Container) :=
  let startValue : Option (Expected × List Container) := match token with
    | .openObject => some (.keyOrEnd, .object :: opened)
    | .openArray => some (.valueOrEnd, .array :: opened)
    | .string _ | .number _ | .word => some (.commaOrEnd, opened)
    | _ => none
  match expected, token, opened with
  | .value, _, _ => startValue
  | .valueOrEnd, .closeArray, .array :: outer => some (.commaOrEnd, outer)
  | .valueOrEnd, _, _ => startValue
  | .key, .string _, _ => some (.colon, opened)
  | .keyOrEnd, .string _, _ => some (.colon, opened)
  | .keyOrEnd, .closeObject, .object :: outer => some (.commaOrEnd, outer)
  | .colon, .colon, _ => some (.value, opened)
  | .commaOrEnd, .comma, .array :: _ => some (.value, opened)
  | .commaOrEnd, .comma, .object :: _ => some (.key, opened)
  | .commaOrEnd, .closeArray, .array :: outer => some (.commaOrEnd, outer)
  | .commaOrEnd, .closeObject, .object :: outer => some (.commaOrEnd, outer)
  | _, _, _ => none

/-- Passes over the rest of a value and gives back the tokens behind it. -/
def passValue (expected : Expected) (opened : List Container) : List Token → Option (List Token)
  | [] => none
  | token :: rest =>
    match passToken expected opened token with
    | none => none
    | some (_, []) => some rest
    | some (expected, opened) => passValue expected opened rest

/-- Passing over a value uses tokens up. -/
theorem length_passValue_lt {expected : Expected} {opened : List Container}
    {tokens rest : List Token} (h : passValue expected opened tokens = some rest) :
    rest.length < tokens.length := by
  fun_induction passValue expected opened tokens with
  | case1 => cases h
  | case2 => cases h
  | case3 =>
    cases h
    exact Nat.lt_succ_self _
  | case4 _ _ _ _ _ _ _ _ ih => exact Nat.lt_succ_of_lt (ih h)

/-- A limit as a field of the record. -/
inductive Field where
  /-- The greatest size of rule text. -/
  | maxRulesSize
  /-- The greatest length of a URL. -/
  | maxUrlLength
  /-- The greatest number of parameters. -/
  | maxParams
  /-- The greatest number of kept expressions. -/
  | matcherCacheSize
  /-- The greatest number of idle buffers. -/
  | poolSize
  deriving DecidableEq, Repr

/-- All limits, in the order in which an array gives them. -/
def Field.all : List Field :=
  [.maxRulesSize, .maxUrlLength, .maxParams, .matcherCacheSize, .poolSize]

/-- The name of a limit. -/
def Field.name : Field → String
  | maxRulesSize => "max_rules_size"
  | maxUrlLength => "max_url_length"
  | maxParams => "max_params"
  | matcherCacheSize => "matcher_cache_size"
  | poolSize => "pool_size"

/-- Changes one limit. -/
def set (limits : Limits) (field : Field) (value : Nat) : Limits :=
  match field with
  | .maxRulesSize => { limits with maxRulesSize := value }
  | .maxUrlLength => { limits with maxUrlLength := value }
  | .maxParams => { limits with maxParams := value }
  | .matcherCacheSize => { limits with matcherCacheSize := value }
  | .poolSize => { limits with poolSize := value }

/-- The value of a limit: digits only, within 64 bits. -/
def limitValue? (text : List Char) : Option Nat :=
  (Text.digits? text).filter (· ≤ Text.wordMax)

/-- Reads the numbers of an array after its bracket or a comma, for the fields that remain. -/
def readArray (limits : Limits) : List Field → List Token → Option (Limits × List Token)
  | field :: fields, .number text :: rest => do
    let limits := limits.set field (← limitValue? text)
    match rest with
    | .closeArray :: rest => return (limits, rest)
    | .comma :: rest => readArray limits fields rest
    | _ => none
  | _, _ => none

/-- The limits read so far from an object, and which of them it named. -/
structure Entries where
  /-- The limits. -/
  limits : Limits := {}
  /-- The fields that were named. -/
  met : List Field := []
  deriving DecidableEq, Repr

/-- Takes the value of a limit in, unless the limit was named before. -/
def Entries.add? (entries : Entries) (field : Field) (text : List Char) : Option Entries :=
  if entries.met.contains field then none
  else (limitValue? text).map fun value =>
    ⟨entries.limits.set field value, field :: entries.met⟩

/-- Reads one entry of an object. -/
def readEntry (entries : Entries) (tokens : List Token) : Option (Entries × List Token) :=
  match tokens with
  | .string (some key) :: .colon :: rest =>
    match Field.all.find? fun field => field.name.toList == key with
    | some field =>
      match rest with
      | .number text :: rest => (entries.add? field text).map fun entries => (entries, rest)
      | _ => none
    | none => (passValue .value [] rest).map fun rest => (entries, rest)
  | _ => none

/-- Reading an entry uses tokens up. -/
theorem length_readEntry_lt {entries entries' : Entries} {tokens rest : List Token}
    (h : readEntry entries tokens = some (entries', rest)) : rest.length < tokens.length := by
  unfold readEntry at h
  split at h
  · split at h
    · split at h
      · obtain ⟨added, -, h⟩ := Option.map_eq_some_iff.1 h
        cases h
        simp only [List.length_cons]
        omega
      · cases h
    · obtain ⟨after, hpass, h⟩ := Option.map_eq_some_iff.1 h
      have hlt := length_passValue_lt hpass
      cases h
      simp only [List.length_cons]
      omega
  · cases h

/-- Reads the entries of an object after its brace or a comma. -/
def readObject (entries : Entries) (tokens : List Token) : Option (Limits × List Token) :=
  match _h : readEntry entries tokens with
  | some (entries, .closeObject :: rest) => some (entries.limits, rest)
  | some (entries, .comma :: rest) => readObject entries rest
  | _ => none
termination_by tokens.length
decreasing_by exact Nat.lt_of_succ_lt (length_readEntry_lt _h)

/-- The limits that tokens write. -/
def ofTokens? (tokens : List Token) : Option Limits := do
  let (limits, rest) ← match tokens with
    | .openArray :: .closeArray :: rest => some ({}, rest)
    | .openArray :: rest => readArray {} Field.all rest
    | .openObject :: .closeObject :: rest => some ({}, rest)
    | .openObject :: rest => readObject {} rest
    | _ => none
  if rest.isEmpty then return limits else none

/-- Reads limits from JSON text. -/
def parse (text : String) : Except Error Limits :=
  match (tokens? text.toList).bind ofTokens? with
  | none => .error .json
  | some limits => do
    limits.validate
    return limits

/-- Reads limits from the bytes of a file, which is missing or may not be UTF-8. -/
def parseFile (contents : Option (List UInt8)) : Except Error Limits :=
  match contents.bind Text.ofBytes? with
  | some text => parse text
  | none => .error .file

end QueryGate.Limits
