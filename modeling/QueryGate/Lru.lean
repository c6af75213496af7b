/-!
# Bounded stores that forget the least recently used entry

The entries are kept from the most to the least recently used. A look-up that finds its key moves
the entry to the front; an insertion into a full store drops the entry at the back.
-/

namespace QueryGate

/-- A store of at most `capacity` entries. -/
structure Lru (κ ν : Type) where
  /-- The greatest number of entries. -/
  capacity : Nat
  /-- The entries, the most recently used first. -/
  entries : List (κ × ν)
  deriving Repr

namespace Lru

variable {κ ν : Type} [BEq κ]

/-- An empty store. The capacity zero counts as one. -/
def empty (capacity : Nat) : Lru κ ν :=
  ⟨max capacity 1, []⟩

/-- The number of entries. -/
def size (store : Lru κ ν) : Nat :=
  store.entries.length

/-- The value under a key. -/
def get? (store : Lru κ ν) (key : κ) : Option ν :=
  (store.entries.find? fun entry => entry.1 == key).map Prod.snd

/-- Puts an entry in front and removes any other entry with its key. -/
def promote (store : Lru κ ν) (key : κ) (value : ν) : Lru κ ν :=
  { store with entries := (key, value) :: store.entries.filter fun entry => !(entry.1 == key) }

/-- Adds an entry for a new key, at the cost of the least recently used one if need be. -/
def insert (store : Lru κ ν) (key : κ) (value : ν) : Lru κ ν :=
  { store with entries := ((key, value) :: store.entries).take store.capacity }

/-- Removes every entry. -/
def clear (store : Lru κ ν) : Lru κ ν :=
  { store with entries := [] }

/-- What a look-up that may have to build its value comes to. -/
structure Answer (κ ν : Type) where
  /-- The value, unless it had to be built and could not. -/
  value : Option ν
  /-- Whether the value had to be built. -/
  built : Bool
  /-- The store afterwards. -/
  store : Lru κ ν
  deriving Repr

/-- Looks a key up and builds the value if it is missing. A value that cannot be built leaves the
store as it was. -/
def getOrBuild (store : Lru κ ν) (key : κ) (build : Unit → Option ν) : Answer κ ν :=
  match store.get? key with
  | some value => ⟨some value, false, store.promote key value⟩
  | none =>
    match build () with
    | some value => ⟨some value, true, store.insert key value⟩
    | none => ⟨none, true, store⟩

/-- A value under a key is that of an entry. -/
theorem mem_of_get? [LawfulBEq κ] {store : Lru κ ν} {key : κ} {value : ν}
    (h : store.get? key = some value) : (key, value) ∈ store.entries := by
  obtain ⟨entry, hfind, rfl⟩ := Option.map_eq_some_iff.1 h
  have hkey : entry.1 = key := by simpa using List.find?_some hfind
  rw [← hkey]
  exact List.mem_of_find?_eq_some hfind

/-- A look-up puts nothing into the store but what was built for its key. -/
theorem mem_entries_getOrBuild [LawfulBEq κ] {store : Lru κ ν} {key : κ}
    {build : Unit → Option ν} {entry : κ × ν}
    (h : entry ∈ (store.getOrBuild key build).store.entries) :
    entry ∈ store.entries ∨ entry.1 = key ∧ build () = some entry.2 := by
  unfold getOrBuild at h
  split at h
  · next value hget =>
    rcases List.mem_cons.1 h with rfl | h
    · exact .inl (mem_of_get? hget)
    · exact .inl (List.mem_filter.1 h).1
  · split at h
    · next value hbuild =>
      have h := List.mem_of_mem_take h
      rcases List.mem_cons.1 h with rfl | h
      · exact .inr ⟨rfl, hbuild⟩
      · exact .inl h
    · exact .inl h

/-! ## Stores of built values -/

/-- Every entry holds what is built for its key. -/
def Coherent (build : κ → Option ν) (store : Lru κ ν) : Prop :=
  ∀ entry ∈ store.entries, build entry.1 = some entry.2

variable {build : κ → Option ν} {store : Lru κ ν}

omit [BEq κ] in
/-- An empty store is coherent. -/
theorem coherent_empty (build : κ → Option ν) (capacity : Nat) :
    (empty capacity : Lru κ ν).Coherent build :=
  fun _ h => nomatch h

omit [BEq κ] in
/-- An emptied store is coherent. -/
theorem coherent_clear (build : κ → Option ν) (store : Lru κ ν) :
    store.clear.Coherent build :=
  fun _ h => nomatch h

/-- Look-ups that build what belongs under their key leave a store coherent. -/
theorem Coherent.getOrBuild [LawfulBEq κ] (h : store.Coherent build) (key : κ) :
    (store.getOrBuild key fun _ => build key).store.Coherent build := by
  intro entry hentry
  rcases mem_entries_getOrBuild hentry with hkept | ⟨hkey, hbuilt⟩
  · exact h entry hkept
  · rw [hkey]
    exact hbuilt

/-- Where nothing but what is built for a key is kept under it, a look-up answers just that. -/
theorem value_getOrBuild_of_get? {key : κ}
    (h : ∀ value, store.get? key = some value → build key = some value) :
    (store.getOrBuild key fun _ => build key).value = build key := by
  unfold Lru.getOrBuild
  cases hget : store.get? key with
  | some value => exact (h value hget).symm
  | none => cases build key <;> rfl

/-- A value under a key of a coherent store is what is built for the key. -/
theorem Coherent.build_eq [LawfulBEq κ] (h : store.Coherent build) {key : κ} {value : ν}
    (hget : store.get? key = some value) : build key = some value :=
  h (key, value) (mem_of_get? hget)

end Lru

end QueryGate
