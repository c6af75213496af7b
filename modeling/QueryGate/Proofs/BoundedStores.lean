import QueryGate.Proofs.Recency

/-!
# Any store that forgets the least recently used entry

Nothing that is said of a bounded store rests on how it keeps its entries. A store is given by its
operations, and known by their laws: what a look-up finds, which entry is the most recently used
one, and which one has to go when there is no room. Every store with these laws comes to what the
list of its entries comes to, call by call. The list is one of them itself.
-/

namespace QueryGate

/-- A store that has room for a number of entries and forgets the least recently used one. Nothing
is known of a store but its entries. -/
structure BoundedStore (κ ν : Type) where
  /-- What the store is at a time. -/
  State : Type
  /-- The entries, the most recently used first. -/
  entries : State → List (κ × ν)
  /-- The greatest number of entries. -/
  room : State → Nat
  /-- A store at first. -/
  new : Nat → State
  /-- Looks a key up. -/
  get : State → κ → Option ν × State
  /-- Puts a value under a key. -/
  put : State → κ → ν → State
  /-- Removes every entry. -/
  clear : State → State
  /-- There is nothing in a store at first. -/
  entries_new : ∀ {capacity : Nat}, 0 < capacity → entries (new capacity) = []
  /-- A store has the room that is asked for. -/
  room_new : ∀ {capacity : Nat}, 0 < capacity → room (new capacity) = capacity
  /-- There is always room for an entry. -/
  room_pos : ∀ s, 0 < room s
  /-- There are never more entries than there is room for. -/
  length_entries_le : ∀ s, (entries s).length ≤ room s
  /-- No key has two entries. -/
  nodup_keys : ∀ s, ((entries s).map Prod.fst).Nodup
  /-- A look-up finds the value of an entry. -/
  fst_get_of_mem : ∀ {s : State} {key : κ} {value : ν}, (key, value) ∈ entries s →
    (get s key).1 = some value
  /-- A look-up finds nothing but entries. -/
  fst_get_of_not_mem : ∀ {s : State} {key : κ}, key ∉ (entries s).map Prod.fst →
    (get s key).1 = none
  /-- A look-up makes the entry that it finds the most recently used one. -/
  entries_get_of_mem : ∀ {s : State} {key : κ} {value : ν} {newer older : List (κ × ν)},
    entries s = newer ++ (key, value) :: older →
    entries (get s key).2 = (key, value) :: (newer ++ older)
  /-- A look-up that finds nothing changes nothing. -/
  entries_get_of_not_mem : ∀ {s : State} {key : κ}, key ∉ (entries s).map Prod.fst →
    entries (get s key).2 = entries s
  /-- A look-up changes nothing about the room. -/
  room_get : ∀ s key, room (get s key).2 = room s
  /-- As long as there is room a new entry is the most recently used one of them all. -/
  entries_put_of_lt : ∀ {s : State} {key : κ} (value : ν), key ∉ (entries s).map Prod.fst →
    (entries s).length < room s → entries (put s key value) = (key, value) :: entries s
  /-- When there is no room the least recently used entry makes way for a new one. -/
  entries_put_of_eq : ∀ {s : State} {key : κ} (value : ν), key ∉ (entries s).map Prod.fst →
    (entries s).length = room s →
    entries (put s key value) = (key, value) :: (entries s).dropLast
  /-- A new entry changes nothing about the room. -/
  room_put : ∀ s key value, room (put s key value) = room s
  /-- An emptied store has no entries. -/
  entries_clear : ∀ s, entries (clear s) = []
  /-- An emptied store has the room that it had. -/
  room_clear : ∀ s, room (clear s) = room s

namespace BoundedStore

variable {κ ν : Type} {S : BoundedStore κ ν}

/-! ## The list of the entries -/

/-- All that is known of a store. -/
def view (S : BoundedStore κ ν) (s : S.State) : Lru κ ν :=
  ⟨S.room s, S.entries s⟩

/-- A store that is made for a number of entries has room for one at least. -/
theorem view_new (S : BoundedStore κ ν) (capacity : Nat) :
    S.view (S.new (max capacity 1)) = Lru.empty capacity := by
  have hroom : 0 < max capacity 1 := by omega
  rw [view, S.room_new hroom, S.entries_new hroom, Lru.empty]

/-- Emptying a store empties the list. -/
theorem view_clear (s : S.State) : S.view (S.clear s) = (S.view s).clear := by
  rw [view, S.entries_clear, S.room_clear]
  rfl

variable [DecidableEq κ]

/-- A look-up finds what it finds in the list. -/
theorem fst_get (s : S.State) (key : κ) : (S.get s key).1 = (S.view s).get? key := by
  cases hget : (S.view s).get? key with
  | none => exact S.fst_get_of_not_mem ((Lru.get?_eq_none_iff _ _).mp hget)
  | some value => exact S.fst_get_of_mem (Lru.mem_of_get? hget)

/-- A look-up that finds its key puts the entry in front of the list. -/
theorem view_get_of_some {s : S.State} {key : κ} {value : ν}
    (hget : (S.view s).get? key = some value) :
    S.view (S.get s key).2 = (S.view s).promote key value := by
  obtain ⟨newer, older, hentries⟩ := List.append_of_mem (Lru.mem_of_get? hget)
  have hnodup := S.nodup_keys s
  change S.entries s = _ at hentries
  rw [hentries] at hnodup
  rw [view, view, Lru.promote, S.room_get, S.entries_get_of_mem hentries, hentries,
    Lru.filter_ne_of_nodup hnodup]

/-- A look-up that does not find its key leaves the list as it is. -/
theorem view_get_of_none {s : S.State} {key : κ} (hget : (S.view s).get? key = none) :
    S.view (S.get s key).2 = S.view s := by
  have hkey : key ∉ (S.entries s).map Prod.fst := (Lru.get?_eq_none_iff _ _).mp hget
  rw [view, S.room_get, S.entries_get_of_not_mem hkey, view]

/-- A new entry stands in front of the list, and the last one goes if the list gets too long. -/
theorem view_put {s : S.State} {key : κ} (value : ν) (hget : (S.view s).get? key = none) :
    S.view (S.put s key value) = (S.view s).insert key value := by
  have hkey : key ∉ (S.entries s).map Prod.fst := (Lru.get?_eq_none_iff _ _).mp hget
  rw [view, view, Lru.insert, S.room_put]
  rcases (S.length_entries_le s).lt_or_eq with hlt | heq
  · have hshort : ((key, value) :: S.entries s).length ≤ S.room s := hlt
    rw [S.entries_put_of_lt value hkey hlt, List.take_of_length_le hshort]
  · obtain ⟨older, hroom⟩ := Nat.exists_eq_succ_of_ne_zero (S.room_pos s).ne'
    rw [S.entries_put_of_eq value hkey heq, List.dropLast_eq_take, heq, hroom]
    rfl

/-! ## Look-ups that build -/

/-- What a look-up that may have to build its value comes to. -/
structure Answer (S : BoundedStore κ ν) where
  /-- The value, unless it had to be built and could not. -/
  value : Option ν
  /-- Whether the value had to be built. -/
  built : Bool
  /-- The store afterwards. -/
  state : S.State

/-- What the look-up comes to in the list. -/
def Answer.view (answer : S.Answer) : Lru.Answer κ ν :=
  ⟨answer.value, answer.built, S.view answer.state⟩

/-- Looks a key up and puts a value there if there is none. -/
def getOrBuild (S : BoundedStore κ ν) (s : S.State) (key : κ) (build : Unit → Option ν) :
    S.Answer :=
  match S.get s key with
  | (some value, s) => ⟨some value, false, s⟩
  | (none, s) =>
    match build () with
    | some value => ⟨some value, true, S.put s key value⟩
    | none => ⟨none, true, s⟩

/-- A look-up in a store is the look-up in its list. -/
theorem view_getOrBuild (s : S.State) (key : κ) (build : Unit → Option ν) :
    (S.getOrBuild s key build).view = (S.view s).getOrBuild key build := by
  have hfound := fst_get s key
  unfold getOrBuild
  rcases hget : S.get s key with ⟨value?, later⟩
  rw [hget] at hfound
  cases value? with
  | some value =>
    have hlater := view_get_of_some hfound.symm
    rw [hget] at hlater
    rw [Lru.getOrBuild_of_kept hfound.symm, ← hlater]
    rfl
  | none =>
    have hlater := view_get_of_none hfound.symm
    rw [hget] at hlater
    change S.view later = S.view s at hlater
    cases hbuild : build () with
    | some value =>
      rw [Lru.getOrBuild_of_built hfound.symm hbuild, ← hlater,
        ← view_put value (hlater ▸ hfound.symm)]
      rfl
    | none =>
      rw [Lru.getOrBuild_of_failed hfound.symm hbuild, ← hlater]
      rfl

/-! ## Histories -/

/-- A store, and what has happened at it. -/
structure History (S : BoundedStore κ ν) where
  /-- The store. -/
  state : S.State
  /-- What has happened, the latest first. -/
  past : List (Lru.Event κ ν)

/-- The history of the list. -/
def History.view (history : S.History) : Lru.History κ ν :=
  ⟨S.view history.state, history.past⟩

/-- The history after one more call. -/
def History.after (history : S.History) : Lru.Call κ ν → S.History
  | .lookUp key build =>
    let answer := S.getOrBuild history.state key fun _ => build
    ⟨answer.state, answer.view.event key :: history.past⟩
  | .clear => ⟨S.clear history.state, .cleared :: history.past⟩

/-- The history of a store from the first. -/
def historyOf (S : BoundedStore κ ν) (capacity : Nat) (calls : List (Lru.Call κ ν)) : S.History :=
  calls.foldl History.after ⟨S.new (max capacity 1), []⟩

/-- A call does to a store what it does to the list. -/
theorem view_after (history : S.History) (call : Lru.Call κ ν) :
    (history.after call).view = history.view.after call := by
  cases call with
  | lookUp key build =>
    have hanswer := view_getOrBuild history.state key fun _ => build
    simp only [History.after, Lru.History.after, History.view, ← hanswer]
    rfl
  | clear =>
    simp only [History.after, Lru.History.after, History.view, view_clear]

/-- Any calls do to a store what they do to the list. -/
theorem view_historyOf (S : BoundedStore κ ν) (capacity : Nat) (calls : List (Lru.Call κ ν)) :
    (S.historyOf capacity calls).view = Lru.historyOf capacity calls := by
  have hafter (history : S.History) :
      (calls.foldl History.after history).view =
        calls.foldl Lru.History.after history.view := by
    induction calls generalizing history with
    | nil => rfl
    | cons call calls ih => rw [List.foldl_cons, List.foldl_cons, ih, view_after]
  rw [historyOf, hafter, History.view, view_new, Lru.historyOf]

/-- After any calls a store has no more entries than there is room for. It builds a value exactly if
none was built for the key since the store was emptied, or if as many other keys as there is room
for were found since the key was. Otherwise the value is the one last built for the key. If it has
to be built and cannot be, the entries stay as they are. -/
theorem keeps_latest (S : BoundedStore κ ν) (capacity : Nat) (calls : List (Lru.Call κ ν)) :
    let history := S.historyOf capacity calls
    (S.entries history.state).length ≤ max capacity 1 ∧
    ∀ (key : κ) (build : Unit → Option ν),
      let answer := S.getOrBuild history.state key build
      (answer.built = true ↔ Lru.lastBuilt? key history.past = none ∨
        max capacity 1 ≤ (Lru.foundSince key history.past).card) ∧
      (answer.built = false → answer.value = Lru.lastBuilt? key history.past) ∧
      (answer.built = true → answer.value = build () ∧
        (build () = none → S.entries answer.state = S.entries history.state)) := by
  intro history
  have hsound : history.view.Sound capacity := by
    rw [view_historyOf]
    exact Lru.sound_historyOf capacity calls
  refine ⟨hsound.size_le, fun key build => ?_⟩
  intro answer
  have hanswer : answer.view = history.view.store.getOrBuild key build :=
    view_getOrBuild history.state key build
  have hvalue : answer.value = (history.view.store.getOrBuild key build).value :=
    congrArg Lru.Answer.value hanswer
  have hbuilt : answer.built = (history.view.store.getOrBuild key build).built :=
    congrArg Lru.Answer.built hanswer
  rw [hvalue, hbuilt]
  refine ⟨hsound.built_iff key build, hsound.value_eq, fun h => ⟨Lru.value_of_built h, ?_⟩⟩
  intro hbuild
  have hstore := Lru.store_of_failed h hbuild
  rw [← hanswer] at hstore
  exact congrArg Lru.entries hstore

end BoundedStore

/-! ## The list as a store -/

namespace Lru

variable {κ ν : Type} [DecidableEq κ]

/-- A list that is a store: it has room, keeps to it, and has no key twice. -/
structure WithinBounds (store : Lru κ ν) : Prop where
  /-- There is room for an entry. -/
  capacity_pos : 0 < store.capacity
  /-- There are no more entries than there is room for. -/
  length_le : store.entries.length ≤ store.capacity
  /-- No key has two entries. -/
  nodup_keys : (store.entries.map Prod.fst).Nodup

variable {store : Lru κ ν} {key : κ} {value : ν}

omit [DecidableEq κ] in
/-- An empty list is a store. -/
theorem withinBounds_empty (capacity : Nat) : (empty capacity : Lru κ ν).WithinBounds where
  capacity_pos := Nat.lt_of_lt_of_le Nat.zero_lt_one (Nat.le_max_right capacity 1)
  length_le := Nat.zero_le _
  nodup_keys := .nil

/-- A list whose entry moves to the front stays a store, with whatever value. -/
theorem WithinBounds.promote {old : ν} (h : store.WithinBounds) (hget : store.get? key = some old)
    (value : ν) : (store.promote key value).WithinBounds where
  capacity_pos := h.capacity_pos
  length_le := by
    have hshorter : (store.entries.filter fun entry => !(entry.1 == key)).length <
        store.entries.length :=
      List.length_filter_lt_length_iff_exists.mpr ⟨(key, old), mem_of_get? hget, by simp⟩
    exact Nat.le_trans hshorter h.length_le
  nodup_keys := by
    rw [Lru.promote, List.map_cons, map_fst_filter_ne]
    exact List.nodup_cons.mpr ⟨by simp, h.nodup_keys.filter _⟩

/-- A list with a new entry, cut to its length, stays a store. -/
theorem WithinBounds.insert (h : store.WithinBounds) (hget : store.get? key = none) (value : ν) :
    (store.insert key value).WithinBounds where
  capacity_pos := h.capacity_pos
  length_le := List.length_take_le _ _
  nodup_keys := by
    have hkey := (get?_eq_none_iff store key).mp hget
    rw [Lru.insert, List.map_take]
    exact (List.nodup_cons.mpr ⟨hkey, h.nodup_keys⟩).sublist (List.take_sublist _ _)

omit [DecidableEq κ] in
/-- An emptied list stays a store. -/
theorem WithinBounds.clear (h : store.WithinBounds) : store.clear.WithinBounds where
  capacity_pos := h.capacity_pos
  length_le := Nat.zero_le _
  nodup_keys := .nil

/-- A look-up leaves a list a store. -/
theorem WithinBounds.getOrBuild (h : store.WithinBounds) (key : κ) (build : Unit → Option ν) :
    (store.getOrBuild key build).store.WithinBounds := by
  cases hget : store.get? key with
  | some value =>
    rw [getOrBuild_of_kept hget]
    exact h.promote hget value
  | none =>
    cases hbuild : build () with
    | some value =>
      rw [getOrBuild_of_built hget hbuild]
      exact h.insert hget value
    | none =>
      rw [getOrBuild_of_failed hget hbuild]
      exact h

/-- A look-up leaves the room of a list as it is. -/
theorem capacity_getOrBuild (store : Lru κ ν) (key : κ) (build : Unit → Option ν) :
    (store.getOrBuild key build).store.capacity = store.capacity := by
  unfold Lru.getOrBuild
  split
  · rfl
  · split <;> rfl

/-- Puts a value under a key, in place of another one if there is any. -/
def put (store : Lru κ ν) (key : κ) (value : ν) : Lru κ ν :=
  if (store.get? key).isSome then store.promote key value else store.insert key value

/-- A list stays a store when a value is put under a key. -/
theorem WithinBounds.put (h : store.WithinBounds) (key : κ) (value : ν) :
    (store.put key value).WithinBounds := by
  unfold Lru.put
  cases hget : store.get? key with
  | some old => exact h.promote hget value
  | none => exact h.insert hget value

/-- A value under a new key is added. -/
theorem put_of_not_mem (value : ν) (hkey : key ∉ store.entries.map Prod.fst) :
    store.put key value = store.insert key value := by
  rw [put, (get?_eq_none_iff store key).mpr hkey]
  rfl

/-- The value of an entry is found under its key. -/
theorem WithinBounds.get?_eq_some (h : store.WithinBounds) (hmem : (key, value) ∈ store.entries) :
    store.get? key = some value := by
  cases hget : store.get? key with
  | none => exact absurd (List.mem_map_of_mem hmem) ((get?_eq_none_iff store key).mp hget)
  | some other =>
    have hsame := List.inj_on_of_nodup_map h.nodup_keys (mem_of_get? hget) hmem rfl
    rw [(Prod.mk.inj hsame).2]

/-- The lists within their bounds are a store. -/
def bounded (κ ν : Type) [DecidableEq κ] : BoundedStore κ ν where
  State := {store : Lru κ ν // store.WithinBounds}
  entries store := store.val.entries
  room store := store.val.capacity
  new capacity := ⟨empty capacity, withinBounds_empty capacity⟩
  get store key :=
    let answer := store.val.getOrBuild key fun _ => none
    (answer.value, ⟨answer.store, store.property.getOrBuild key _⟩)
  put store key value := ⟨store.val.put key value, store.property.put key value⟩
  clear store := ⟨store.val.clear, store.property.clear⟩
  entries_new _ := rfl
  room_new hcapacity := Nat.max_eq_left hcapacity
  room_pos store := store.property.capacity_pos
  length_entries_le store := store.property.length_le
  nodup_keys store := store.property.nodup_keys
  fst_get_of_mem {store} _ _ hmem := by
    dsimp only
    rw [getOrBuild_of_kept (store.property.get?_eq_some hmem)]
  fst_get_of_not_mem hkey := by
    dsimp only
    rw [getOrBuild_of_failed ((get?_eq_none_iff _ _).mpr hkey) rfl]
  entries_get_of_mem {store key value newer older} hentries := by
    have hmem : (key, value) ∈ store.val.entries := by
      rw [hentries]
      exact List.mem_append_cons_self
    have hnodup := store.property.nodup_keys
    rw [hentries] at hnodup
    dsimp only
    rw [getOrBuild_of_kept (store.property.get?_eq_some hmem), promote, hentries,
      filter_ne_of_nodup hnodup]
  entries_get_of_not_mem hkey := by
    dsimp only
    rw [getOrBuild_of_failed ((get?_eq_none_iff _ _).mpr hkey) rfl]
  room_get store key := capacity_getOrBuild store.val key _
  entries_put_of_lt {store key} value hkey hlt := by
    have hshort : ((key, value) :: store.val.entries).length ≤ store.val.capacity := hlt
    dsimp only
    rw [put_of_not_mem value hkey, insert, List.take_of_length_le hshort]
  entries_put_of_eq {store key} value hkey heq := by
    obtain ⟨older, hroom⟩ := Nat.exists_eq_succ_of_ne_zero store.property.capacity_pos.ne'
    dsimp only
    rw [put_of_not_mem value hkey, insert, List.dropLast_eq_take, heq, hroom]
    rfl
  room_put store key value := by
    unfold put
    dsimp only
    split <;> rfl
  entries_clear _ := rfl
  room_clear _ := rfl

end Lru

end QueryGate
