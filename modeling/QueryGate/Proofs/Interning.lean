import QueryGate.Proofs.SegmentSpan
import QueryGate.Proofs.Slots

/-!
# Names and slots determine each other

An index gives names slots, is asked for them from either side, and forgets all of them at once.
Whatever it has been asked before, the names that were given slots since it last forgot them stand
under the slots from zero on, in the order in which they were first met, and a name keeps its slot
until the index forgets it. Keeping the names twice, under their slots and in a map from which the
slots are read, comes to the same: the array and the map are written to one after the other, but
they never disagree.
-/

namespace QueryGate

open QueryGate.Text

/-! ## Requests -/

/-- What an index of names is asked to do. -/
inductive NameRequest where
  /-- To give a name a slot, if it has none, and say which one it has. -/
  | intern (name : String)
  /-- To look up the slot of a name. -/
  | slotOf (name : String)
  /-- To look up the slot of the name between two offsets of a buffer. -/
  | slotOfBytes (buf : List UInt8) (start stop : Nat)
  /-- To look up the name of a slot. -/
  | nameOf (slot : Nat)
  /-- To say how many slots there are. -/
  | size
  /-- To forget all names. -/
  | clear
  deriving DecidableEq

/-- What an index of names answers. -/
inductive NameAnswer where
  /-- The slot of a name, if it has one. -/
  | slot (slot : Option Nat)
  /-- The name of a slot, if there is one. -/
  | name (name : Option String)
  /-- The number of slots. -/
  | size (size : Nat)
  /-- Nothing is left. -/
  | cleared
  deriving DecidableEq

namespace NameRequest

/-- The name that a request gives a slot. -/
def interned? : NameRequest → Option String
  | intern name => some name
  | _ => none

/-- Whether a request may change the index; otherwise it only looks something up. -/
def changes : NameRequest → Bool
  | intern _ => true
  | clear => true
  | _ => false

/-- The names that were given slots since all names were last forgotten, as often as they were. -/
def namesSinceClear (requests : List NameRequest) : List String :=
  (requests.reverse.takeWhile (· != clear)).reverse.filterMap interned?

/-- One more request forgets all names or adds the name that it gives a slot. -/
theorem namesSinceClear_concat (requests : List NameRequest) (request : NameRequest) :
    namesSinceClear (requests ++ [request]) =
      if request = clear then [] else namesSinceClear requests ++ request.interned?.toList := by
  unfold namesSinceClear
  rw [List.reverse_append, List.reverse_singleton, List.singleton_append]
  by_cases hclear : request = clear
  · rw [if_pos hclear, List.takeWhile_cons_of_neg (by simpa using hclear)]
    rfl
  · rw [if_neg hclear, List.takeWhile_cons_of_pos (by simpa using hclear), List.reverse_cons,
      List.filterMap_append]
    cases hname : request.interned? <;> simp [hname]

end NameRequest

/-! ## The index -/

namespace NameIndex

variable {index : NameIndex} {name other : String} {slot : Nat}

/-- Answers a request, and is the index that it leaves behind. -/
def serve (index : NameIndex) : NameRequest → NameAnswer × NameIndex
  | .intern name => (.slot (index.intern name).1, (index.intern name).2)
  | .slotOf name => (.slot (index.slot? name), index)
  | .slotOfBytes buf start stop => (.slot (index.slotOfBytes? buf start stop), index)
  | .nameOf slot => (.name (index.name? slot), index)
  | .size => (.size index.size, index)
  | .clear => (.cleared, empty)

/-- The index after requests, if it was empty at first. -/
def after (requests : List NameRequest) : NameIndex :=
  requests.foldl (fun index request => (index.serve request).2) empty

/-- Names are added behind the others, unless they are there. -/
theorem names_insert (index : NameIndex) (name : String) :
    (index.insert name).names =
      if name ∈ index.names then index.names else index.names ++ [name] := by
  unfold insert
  split <;> rfl

/-- A name stands under its slot, and no other name does. -/
theorem slot?_eq_some_iff : index.slot? name = some slot ↔ index.name? slot = some name := by
  constructor
  · exact getElem?_of_slot?
  · intro h
    -- The slot is that of some name, and only one name stands there.
    have hlt : slot < index.size := (List.getElem?_eq_some_iff.mp h).1
    obtain ⟨found, hfound⟩ := exists_name_of_lt hlt
    have hsame := getElem?_of_slot? hfound
    unfold name? at h
    rw [h, Option.some_inj] at hsame
    rw [hsame]
    exact hfound

/-- A name has no slot exactly if it is none of the names. -/
theorem slot?_eq_none_iff : index.slot? name = none ↔ name ∉ index.names := by
  rw [← exists_slot?_iff, ← Option.isSome_iff_exists, Option.not_isSome_iff_eq_none]

/-- Exactly the slots below the number of slots have names. -/
theorem exists_name?_iff : (∃ name, index.name? slot = some name) ↔ slot < index.size := by
  constructor
  · rintro ⟨name, h⟩
    exact slot?_lt (slot?_eq_some_iff.mpr h)
  · intro h
    obtain ⟨name, hname⟩ := exists_name_of_lt h
    exact ⟨name, slot?_eq_some_iff.mp hname⟩

/-- Where names stand, no other names come to stand. -/
theorem slot?_insert (h : index.slot? name = some slot) :
    (index.insert other).slot? name = some slot := by
  rw [slot?_eq_some_iff] at h ⊢
  have hlt : slot < index.names.length := (List.getElem?_eq_some_iff.mp h).1
  unfold name? at h ⊢
  rw [names_insert]
  split
  · exact h
  · rw [List.getElem?_append_left hlt]
    exact h

/-- A name without slot is given the next one. -/
theorem slot?_insert_of_eq_none (h : index.slot? name = none) :
    (index.insert name).slot? name = some index.size := by
  rw [slot?_eq_none_iff] at h
  rw [slot?_eq_some_iff]
  unfold name? size
  rw [names_insert, if_neg h, List.getElem?_append_right (Nat.le_refl _), Nat.sub_self]
  rfl

/-- Giving a name a slot gives no other name one. -/
theorem slot?_insert_of_ne (h : other ≠ name) :
    (index.insert name).slot? other = index.slot? other := by
  cases hslot : index.slot? other with
  | some slot => exact slot?_insert hslot
  | none =>
    rw [slot?_eq_none_iff] at hslot ⊢
    rw [mem_names_insert, not_or]
    exact ⟨hslot, h⟩

/-- The slot that a name is said to have is the one that it has. -/
theorem slot?_intern (index : NameIndex) (name : String) :
    (index.intern name).2.slot? name = some (index.intern name).1 := by
  unfold intern
  cases h : index.slot? name with
  | none => exact slot?_insert_of_eq_none h
  | some slot => exact slot?_insert h

/-! ### One request -/

/-- Looking something up changes nothing. -/
theorem serve_of_not_changes {request : NameRequest} (h : request.changes = false) :
    (index.serve request).2 = index := by
  cases request with
  | intern => cases h
  | clear => cases h
  | slotOf | slotOfBytes | nameOf | size => rfl

/-- A name keeps its slot unless all names are forgotten. -/
theorem slot?_serve (h : index.slot? name = some slot) {request : NameRequest}
    (hrequest : request ≠ .clear) : (index.serve request).2.slot? name = some slot := by
  cases request with
  | intern other => exact slot?_insert h
  | clear => exact absurd rfl hrequest
  | slotOf | slotOfBytes | nameOf | size => exact h

/-- If the names are those of a list, each where it first occurs in it, then they are so with one
more name. -/
theorem names_serve {names : List String} (h : index.names = names.eraseDups)
    (request : NameRequest) :
    (index.serve request).2.names =
      if request = .clear then [] else (names ++ request.interned?.toList).eraseDups := by
  cases request with
  | clear => rfl
  | intern name =>
    have hnames : (index.insert name).names = (names ++ [name]).eraseDups := by
      rw [names_insert, List.eraseDups_append, h]
      by_cases hmem : name ∈ names
      · simp [List.removeAll, hmem]
      · simp [List.removeAll, hmem, List.eraseDups_cons]
    rw [if_neg (by simp)]
    exact hnames
  | slotOf | slotOfBytes | nameOf | size =>
    rw [if_neg (by simp)]
    simpa [serve, NameRequest.interned?] using h

/-! ### Many requests -/

/-- Requests are served one after the other. -/
theorem after_append (requests more : List NameRequest) :
    after (requests ++ more) =
      more.foldl (fun index request => (index.serve request).2) (after requests) :=
  List.foldl_append

/-- The names are those that were given slots since all names were last forgotten, in the order in
which they were first met. -/
theorem names_after (requests : List NameRequest) :
    (after requests).names = (NameRequest.namesSinceClear requests).eraseDups := by
  induction requests using List.reverseRecOn with
  | nil => rfl
  | append_singleton requests request ih =>
    rw [after_append, List.foldl_cons, List.foldl_nil, names_serve ih,
      NameRequest.namesSinceClear_concat]
    split <;> rfl

/-- A name keeps its slot until all names are forgotten. -/
theorem slot?_foldl_serve {more : List NameRequest} (hmore : NameRequest.clear ∉ more)
    (h : index.slot? name = some slot) :
    (more.foldl (fun index request => (index.serve request).2) index).slot? name = some slot := by
  induction more generalizing index with
  | nil => exact h
  | cons request more ih =>
    rw [List.mem_cons, not_or] at hmore
    exact ih hmore.2 (slot?_serve h (Ne.symm hmore.1))

/-- Requests that look something up can be left out. -/
theorem after_filter_changes (requests : List NameRequest) :
    after (requests.filter NameRequest.changes) = after requests := by
  induction requests using List.reverseRecOn with
  | nil => rfl
  | append_singleton requests request ih =>
    rw [List.filter_append, after_append, after_append, ih]
    cases hchanges : request.changes with
    | true => rw [List.filter_cons_of_pos hchanges, List.filter_nil]
    | false =>
      rw [List.filter_cons_of_neg (by simp [hchanges]), List.filter_nil, List.foldl_cons,
        List.foldl_nil, serve_of_not_changes hchanges, List.foldl_nil]

end NameIndex

/-! ## Names in a buffer -/

/-- Between two offsets of a buffer stand the bytes of a name. -/
def EncodedAt (buf : List UInt8) (start stop : Nat) (name : String) : Prop :=
  ∃ before after, buf = before ++ bytes name ++ after ∧ before.length = start ∧
    start + (bytes name).length = stop

namespace NameIndex

variable {index : NameIndex} {buf : List UInt8} {start stop : Nat} {name : String}

/-- A name that stands in a buffer is looked up there as the name itself. -/
theorem slotOfBytes?_of_encodedAt (h : EncodedAt buf start stop name) :
    index.slotOfBytes? buf start stop = index.slot? name := by
  unfold slotOfBytes?
  rw [Query.slice?_eq_some_iff.mpr h]
  change (ofBytes? (bytes name)).bind index.slot? = _
  rw [ofBytes?_bytes]
  rfl

/-- Where no name stands in a buffer, none is found. -/
theorem slotOfBytes?_of_forall (h : ∀ name, ¬EncodedAt buf start stop name) :
    index.slotOfBytes? buf start stop = none := by
  unfold slotOfBytes?
  cases hslice : Query.slice? buf start stop with
  | none => rfl
  | some part =>
    change (ofBytes? part).bind index.slot? = none
    cases hname : ofBytes? part with
    | none => rfl
    | some name =>
      have hbytes : bytes name = part := ofBytes?_eq_some_iff.mp hname
      rw [← hbytes] at hslice
      exact absurd (Query.slice?_eq_some_iff.mp hslice) (h name)

end NameIndex

/-! ## A map and an array -/

/-- Names that are kept twice. -/
structure NameTable where
  /-- The slots under their names. -/
  slots : Std.HashMap String Nat
  /-- The names under their slots. -/
  names : Array String

namespace NameTable

/-- The table without names. -/
def empty : NameTable :=
  ⟨∅, #[]⟩

/-- The slot of a name, and the table in which it has that slot: a name that is not in the map is
put into the map first and then behind the other names. -/
def intern (table : NameTable) (name : String) : Nat × NameTable :=
  match table.slots[name]? with
  | some slot => (slot, table)
  | none =>
    let slot := table.names.size
    (slot, ⟨table.slots.insert name slot, table.names.push name⟩)

/-- The slot of the name that a range of a buffer encodes. -/
def slotOfBytes? (table : NameTable) (buf : List UInt8) (start stop : Nat) : Option Nat := do
  table.slots[(← ofBytes? (← Query.slice? buf start stop))]?

/-- Answers a request, and is the table that it leaves behind. -/
def serve (table : NameTable) : NameRequest → NameAnswer × NameTable
  | .intern name => (.slot (table.intern name).1, (table.intern name).2)
  | .slotOf name => (.slot table.slots[name]?, table)
  | .slotOfBytes buf start stop => (.slot (table.slotOfBytes? buf start stop), table)
  | .nameOf slot => (.name table.names[slot]?, table)
  | .size => (.size table.names.size, table)
  | .clear => (.cleared, empty)

/-- The table after requests, if it was empty at first. -/
def after (requests : List NameRequest) : NameTable :=
  requests.foldl (fun table request => (table.serve request).2) empty

/-- A table holds the names of an index, and its map gives the slots that they have there. -/
structure Agrees (table : NameTable) (index : NameIndex) : Prop where
  /-- The names are the same. -/
  names_eq : table.names.toList = index.names
  /-- The map gives the slots of the names. -/
  slots_eq : ∀ name : String, table.slots[name]? = index.slot? name

namespace Agrees

variable {table : NameTable} {index : NameIndex}

/-- Without names there is nothing to disagree about. -/
theorem of_empty : Agrees empty .empty :=
  ⟨rfl, fun _ => Std.HashMap.getElem?_empty⟩

/-- There are as many names. -/
theorem size_eq (h : Agrees table index) : table.names.size = index.size := by
  unfold NameIndex.size
  rw [← h.names_eq, Array.length_toList]

/-- The names have the same slots. -/
theorem name_eq (h : Agrees table index) (slot : Nat) :
    table.names[slot]? = index.name? slot := by
  unfold NameIndex.name?
  rw [← h.names_eq, Array.getElem?_toList]

/-- A name is given the same slot, and the map and the names stay in step. -/
theorem intern (h : Agrees table index) (name : String) :
    (table.intern name).1 = (index.intern name).1 ∧
      Agrees (table.intern name).2 (index.intern name).2 := by
  unfold NameTable.intern NameIndex.intern
  rw [h.slots_eq]
  cases hslot : index.slot? name with
  | some slot =>
    have hmem : name ∈ index.names := NameIndex.exists_slot?_iff.mp ⟨slot, hslot⟩
    have hsame : index.insert name = index := by
      unfold NameIndex.insert
      rw [dif_pos hmem]
    refine ⟨rfl, ?_⟩
    rw [hsame]
    exact h
  | none =>
    have hmem : name ∉ index.names := NameIndex.slot?_eq_none_iff.mp hslot
    -- The name goes behind the others, where their number in the array is its slot in the index.
    refine ⟨h.size_eq, ?_, fun other => ?_⟩
    · rw [NameIndex.names_insert, if_neg hmem, Array.toList_push, h.names_eq]
    · rw [Std.HashMap.getElem?_insert, h.size_eq]
      by_cases hother : name = other
      · subst hother
        rw [beq_self_eq_true, if_pos rfl, NameIndex.slot?_insert_of_eq_none hslot]
      · rw [beq_false_of_ne hother, if_neg Bool.false_ne_true, h.slots_eq]
        exact (NameIndex.slot?_insert_of_ne (Ne.symm hother)).symm

/-- The name in a range of a buffer has the same slot. -/
theorem slotOfBytes?_eq (h : Agrees table index) (buf : List UInt8) (start stop : Nat) :
    table.slotOfBytes? buf start stop = index.slotOfBytes? buf start stop := by
  unfold NameTable.slotOfBytes? NameIndex.slotOfBytes?
  simp only [h.slots_eq]

/-- Every request is answered in the same way, and the map and the names stay in step. -/
theorem serve (h : Agrees table index) (request : NameRequest) :
    (table.serve request).1 = (index.serve request).1 ∧
      Agrees (table.serve request).2 (index.serve request).2 := by
  cases request with
  | intern name =>
    obtain ⟨hslot, hagrees⟩ := h.intern name
    exact ⟨congrArg (NameAnswer.slot ∘ some) hslot, hagrees⟩
  | slotOf name => exact ⟨congrArg NameAnswer.slot (h.slots_eq name), h⟩
  | slotOfBytes buf start stop =>
    exact ⟨congrArg NameAnswer.slot (h.slotOfBytes?_eq buf start stop), h⟩
  | nameOf slot => exact ⟨congrArg NameAnswer.name (h.name_eq slot), h⟩
  | size => exact ⟨congrArg NameAnswer.size h.size_eq, h⟩
  | clear => exact ⟨rfl, .of_empty⟩

/-- The map and the names stay in step over any requests. -/
theorem after (requests : List NameRequest) :
    Agrees (NameTable.after requests) (NameIndex.after requests) := by
  induction requests using List.reverseRecOn with
  | nil => exact .of_empty
  | append_singleton requests request ih =>
    unfold NameTable.after NameIndex.after
    rw [List.foldl_append, List.foldl_append]
    exact (ih.serve request).2

end Agrees

end NameTable

/-! ## Names and slots -/

namespace NameIndex

/-- Whatever an index of names has been asked, each name that was given a slot since all names were
last forgotten has one slot, each slot below their number has one of these names, and the names
stand under the slots in the order in which they were first met. A name keeps the slot that it was
said to have until all names are forgotten, and looking something up changes nothing. Between two
offsets of a buffer the slot of the name is found whose bytes stand there, and none if no name's do.
A map and an array that are kept in step answer every request in the same way. -/
theorem names_and_slots_correspond (requests : List NameRequest) :
    (∀ slot, (after requests).name? slot =
      (NameRequest.namesSinceClear requests).eraseDups[slot]?) ∧
    (∀ slot, (∃ name, (after requests).name? slot = some name) ↔ slot < (after requests).size) ∧
    (∀ name, (∃ slot, (after requests).slot? name = some slot) ↔
      name ∈ NameRequest.namesSinceClear requests) ∧
    (∀ name slot, (after requests).slot? name = some slot ↔
      (after requests).name? slot = some name) ∧
    (∀ name more, NameRequest.clear ∉ more →
      (after (requests ++ .intern name :: more)).slot? name =
        some ((after requests).intern name).1) ∧
    (∀ name slot more, (after requests).slot? name = some slot → NameRequest.clear ∉ more →
      (after (requests ++ more)).slot? name = some slot) ∧
    after (requests.filter NameRequest.changes) = after requests ∧
    (∀ buf start stop,
      (∀ name, EncodedAt buf start stop name →
        (after requests).slotOfBytes? buf start stop = (after requests).slot? name) ∧
      ((∀ name, ¬EncodedAt buf start stop name) →
        (after requests).slotOfBytes? buf start stop = none)) ∧
    ∀ request, ((NameTable.after requests).serve request).1 =
      ((after requests).serve request).1 := by
  have hnames := names_after requests
  refine ⟨fun slot => ?_, fun slot => exists_name?_iff, fun name => ?_,
    fun name slot => slot?_eq_some_iff, fun name more hmore => ?_,
    fun name slot more hslot hmore => ?_, after_filter_changes requests,
    fun buf start stop => ⟨fun name => slotOfBytes?_of_encodedAt, slotOfBytes?_of_forall⟩,
    fun request => ((NameTable.Agrees.after requests).serve request).1⟩
  · unfold name?
    rw [hnames]
  · rw [exists_slot?_iff, hnames, List.mem_eraseDups]
  · rw [after_append, List.foldl_cons]
    exact slot?_foldl_serve hmore (slot?_intern (after requests) name)
  · rw [after_append]
    exact slot?_foldl_serve hmore hslot

/-- A name that is met again keeps its slot, one that was forgotten has none, and a name is found
between its offsets in a buffer. -/
theorem names_and_slots_correspond_again :
    (after [.intern "old", .clear, .intern "page", .intern "sort"]).slot? "sort" = some 1 ∧
      (after ([.intern "old", .clear, .intern "page", .intern "sort"] ++
        [.slotOf "old", .intern "dir", .intern "sort"])).slot? "sort" = some 1 ∧
      EncodedAt (bytes "page=1&sort=x") 7 11 "sort" ∧
      (after [.intern "old", .clear, .intern "page", .intern "sort"]).slotOfBytes?
        (bytes "page=1&sort=x") 7 11 = some 1 ∧
      ((NameTable.after [.intern "old", .clear, .intern "page", .intern "sort"]).serve
        (.slotOf "old")).1 = .slot none := by
  obtain ⟨hname, _, _, hinverse, _, hkeeps, _, hbytes, hanswers⟩ :=
    names_and_slots_correspond [.intern "old", .clear, .intern "page", .intern "sort"]
  have hslot := (hinverse "sort" 1).mpr ((hname 1).trans (by decide +kernel))
  have hencoded : EncodedAt (bytes "page=1&sort=x") 7 11 "sort" :=
    ⟨bytes "page=1&", bytes "=x", by decide +kernel, by decide +kernel, by decide +kernel⟩
  refine ⟨hslot, hkeeps "sort" 1 _ hslot (by decide), hencoded, ?_, ?_⟩
  · rw [(hbytes _ _ _).1 "sort" hencoded, hslot]
  · exact (hanswers (.slotOf "old")).trans (by decide +kernel)

end NameIndex

end QueryGate
