import Mathlib.Data.Finset.Card
import Mathlib.Data.List.Nodup
import QueryGate.Proofs.KeptExpressions

/-!
# What a bounded store keeps

A store is told to look keys up, with a value to build if there is none, and to forget everything.
What has happened at it decides what it keeps: the keys that were found last, as many as there is
room for, each with the value that was last built for it. So a value is built if and only if it was
not built since everything was forgotten, or enough other keys have been found since it was. The
plugins that keep expressions use their stores in this way, and nothing that they hand out depends
on it.
-/

namespace QueryGate.Lru

variable {κ ν : Type} [DecidableEq κ]

/-! ## Histories -/

/-- What a store is told to do. -/
inductive Call (κ ν : Type) where
  /-- To look up a key, with what building its value comes to. -/
  | lookUp (key : κ) (build : Option ν)
  /-- To forget everything. -/
  | clear

/-- What has happened at a store. -/
inductive Event (κ ν : Type) where
  /-- A key was looked up with success, and its value was built or had been kept. -/
  | found (key : κ) (value : ν) (built : Bool)
  /-- The value of a key could not be built. -/
  | failed (key : κ)
  /-- Everything was forgotten. -/
  | cleared

/-- A store, and what has happened at it. -/
structure History (κ ν : Type) where
  /-- The store. -/
  store : Lru κ ν
  /-- What has happened, the latest first. -/
  past : List (Event κ ν)

/-- What has happened when a key was looked up. -/
def Answer.event (answer : Answer κ ν) (key : κ) : Event κ ν :=
  match answer.value with
  | some value => .found key value answer.built
  | none => .failed key

/-- The history after one more call. -/
def History.after (history : History κ ν) : Call κ ν → History κ ν
  | .lookUp key build =>
    let answer := history.store.getOrBuild key fun _ => build
    ⟨answer.store, answer.event key :: history.past⟩
  | .clear => ⟨history.store.clear, .cleared :: history.past⟩

/-- The history of a store that was empty at first. -/
def historyOf (capacity : Nat) (calls : List (Call κ ν)) : History κ ν :=
  calls.foldl History.after ⟨empty capacity, []⟩

/-- The value last built for a key since everything was forgotten. -/
def lastBuilt? (key : κ) : List (Event κ ν) → Option ν
  | [] => none
  | .found other value built :: past =>
    if other = key ∧ built = true then some value else lastBuilt? key past
  | .failed _ :: past => lastBuilt? key past
  | .cleared :: _ => none

/-- The other keys that were found since the key itself was. -/
def foundSince (key : κ) : List (Event κ ν) → Finset κ
  | [] => ∅
  | .found other _ _ :: past => if other = key then ∅ else {other} ∪ foundSince key past
  | .failed _ :: past => foundSince key past
  | .cleared :: past => foundSince key past

/-- What a store with room for everything would keep, the key that was found last in front. -/
def recency : List (Event κ ν) → List (κ × ν)
  | [] => []
  | .found key value _ :: past =>
    (key, value) :: (recency past).filter fun entry => !(entry.1 == key)
  | .failed _ :: past => recency past
  | .cleared :: _ => []

/-! ## Lists with a key -/

/-- The keys of the entries without one key are the other keys. -/
theorem map_fst_filter_ne (key : κ) (entries : List (κ × ν)) :
    (entries.filter fun entry => !(entry.1 == key)).map Prod.fst =
      (entries.map Prod.fst).filter (! · == key) := by
  rw [List.filter_map]
  rfl

/-- The other entries are those in front of the only one with a key and those behind it. -/
theorem filter_ne_of_nodup {key : κ} {value : ν} {newer older : List (κ × ν)}
    (h : ((newer ++ (key, value) :: older).map Prod.fst).Nodup) :
    ((newer ++ (key, value) :: older).filter fun entry => !(entry.1 == key)) = newer ++ older := by
  rw [List.map_append, List.map_cons, List.nodup_middle, List.nodup_cons, ← List.map_append] at h
  have hothers : ∀ entry ∈ newer ++ older, (!(entry.1 == key)) = true := by
    intro entry hentry
    have hne : entry.1 ≠ key := by
      intro heq
      exact h.1 (List.mem_map.mpr ⟨entry, hentry, heq⟩)
    simpa using hne
  rw [List.filter_append, List.filter_cons_of_neg (by simp), ← List.filter_append,
    List.filter_eq_self.mpr hothers]

/-- Leaving another key out does not change where a key stands among the others. -/
theorem takeWhile_filter_ne {key other : κ} (hother : other ≠ key) (keys : List κ) :
    (keys.filter (! · == other)).takeWhile (! · == key) =
      (keys.takeWhile (! · == key)).filter (! · == other) := by
  have hpast : (fun k => !!(k == other) || !(k == key)) = (! · == key) := by
    funext k
    by_cases hk : k = other
    · simp [hk, hother]
    · simp [hk]
  rw [List.takeWhile_filter, hpast]

/-- A key is among the first keys exactly if fewer keys stand in front of it. -/
theorem mem_take_iff_length_takeWhile_lt (key : κ) (n : Nat) (keys : List κ) :
    key ∈ keys.take n ↔ key ∈ keys ∧ (keys.takeWhile (! · == key)).length < n := by
  induction keys generalizing n with
  | nil => simp
  | cons first keys ih =>
    cases n with
    | zero => simp
    | succ n =>
      rw [List.take_succ_cons]
      by_cases hfirst : first = key
      · simp [hfirst]
      · simp [hfirst, Ne.symm hfirst, ih]

/-- Leaving out what is not among the first does not change the first. -/
theorem take_filter_of_forall {α : Type} {p : α → Bool} {n : Nat} {xs : List α}
    (h : ∀ x ∈ xs.take n, p x = true) : (xs.filter p).take n = xs.take n := by
  induction xs generalizing n with
  | nil => rfl
  | cons x xs ih =>
    cases n with
    | zero => rfl
    | succ n =>
      rw [List.take_succ_cons, List.forall_mem_cons] at h
      rw [List.filter_cons_of_pos h.1, List.take_succ_cons, List.take_succ_cons, ih h.2]

/-- Leaving out a key that is among the first makes room for one entry less. -/
theorem filter_take_of_mem {key : κ} {n : Nat} {entries : List (κ × ν)}
    (hnodup : (entries.map Prod.fst).Nodup) (hmem : key ∈ (entries.take (n + 1)).map Prod.fst) :
    ((entries.take (n + 1)).filter fun entry => !(entry.1 == key)) =
      (entries.filter fun entry => !(entry.1 == key)).take n := by
  induction entries generalizing n with
  | nil => cases hmem
  | cons first entries ih =>
    rw [List.map_cons, List.nodup_cons] at hnodup
    obtain ⟨hfirst, hothers⟩ := hnodup
    rw [List.take_succ_cons] at hmem ⊢
    by_cases hkey : first.1 = key
    · -- The key does not come again.
      have hkept : ∀ entry ∈ entries, (!(entry.1 == key)) = true := by
        intro entry hentry
        have hne : entry.1 ≠ key := by
          intro hagain
          rw [hkey, ← hagain] at hfirst
          exact hfirst (List.mem_map.mpr ⟨entry, hentry, rfl⟩)
        simpa using hne
      have htaken : ∀ entry ∈ entries.take n, (!(entry.1 == key)) = true :=
        fun entry hentry => hkept entry (List.mem_of_mem_take hentry)
      rw [List.filter_cons_of_neg (by simp [hkey]), List.filter_cons_of_neg (by simp [hkey]),
        List.filter_eq_self.mpr htaken, List.filter_eq_self.mpr hkept]
    · have hrest : key ∈ (entries.take n).map Prod.fst := by
        rw [List.map_cons, List.mem_cons] at hmem
        exact hmem.resolve_left (Ne.symm hkey)
      cases n with
      | zero => cases hrest
      | succ n =>
        rw [List.filter_cons_of_pos (by simpa using hkey),
          List.filter_cons_of_pos (by simpa using hkey), List.take_succ_cons, ih hothers hrest]

/-! ## The order of what was found -/

/-- No key has two entries. -/
theorem nodup_recency (past : List (Event κ ν)) : ((recency past).map Prod.fst).Nodup := by
  induction past with
  | nil => exact .nil
  | cons event past ih =>
    cases event with
    | found key value built =>
      rw [recency, List.map_cons, map_fst_filter_ne]
      exact List.nodup_cons.mpr ⟨by simp, ih.filter _⟩
    | failed key => exact ih
    | cleared => exact .nil

/-- In front of a key stand the keys that were found since it was. -/
theorem toFinset_takeWhile_recency {key : κ} {past : List (Event κ ν)}
    (hmem : key ∈ (recency past).map Prod.fst) :
    (((recency past).map Prod.fst).takeWhile (! · == key)).toFinset = foundSince key past := by
  induction past with
  | nil => cases hmem
  | cons event past ih =>
    cases event with
    | found other value built =>
      rw [recency, List.map_cons, map_fst_filter_ne] at hmem ⊢
      by_cases hkey : other = key
      · simp [foundSince, hkey]
      · have hothers : key ∈ (recency past).map Prod.fst := by
          rcases List.mem_cons.mp hmem with h | h
          · exact absurd h.symm hkey
          · exact List.mem_of_mem_filter h
        rw [List.takeWhile_cons_of_pos (by simpa using hkey), takeWhile_filter_ne hkey,
          List.toFinset_cons, List.toFinset_filter, ih hothers, foundSince, if_neg hkey]
        ext k
        by_cases hk : k = other <;> simp [hk]
    | failed other => exact ih hmem
    | cleared => cases hmem

/-- The number of keys in front of a key is the number of keys that were found since it was. -/
theorem length_takeWhile_recency {key : κ} {past : List (Event κ ν)}
    (hmem : key ∈ (recency past).map Prod.fst) :
    (((recency past).map Prod.fst).takeWhile (! · == key)).length = (foundSince key past).card := by
  rw [← toFinset_takeWhile_recency hmem, List.toFinset_card_of_nodup]
  exact (nodup_recency past).sublist (List.takeWhile_sublist _)

/-! ## What a history keeps to -/

/-- The store keeps the entries that were found last. -/
structure History.Sound (capacity : Nat) (history : History κ ν) : Prop where
  /-- The capacity stays, and zero counts as one. -/
  capacity_eq : history.store.capacity = max capacity 1
  /-- The entries are the latest, as many as there is room for. -/
  entries_eq : history.store.entries = (recency history.past).take (max capacity 1)
  /-- The value of an entry is the one last built for its key. -/
  mem_iff : ∀ key value, (key, value) ∈ recency history.past ↔
    lastBuilt? key history.past = some value

variable {capacity : Nat} {history : History κ ν}

/-- An empty store has no history. -/
theorem sound_empty (capacity : Nat) : History.Sound capacity ⟨(empty capacity : Lru κ ν), []⟩ :=
  ⟨rfl, List.take_nil.symm, fun _ _ => by simp [recency, lastBuilt?]⟩

/-- A call to forget everything leaves nothing to keep. -/
theorem History.Sound.after_clear (h : history.Sound capacity) :
    (history.after .clear).Sound capacity :=
  ⟨h.capacity_eq, List.take_nil.symm, fun _ _ => by simp [History.after, recency, lastBuilt?]⟩

/-- A key that is found with the value that was last built for it has this value. -/
theorem mem_recency_found_iff {past : List (Event κ ν)} {key : κ} {value : ν} {built : Bool}
    (h : ∀ other value, (other, value) ∈ recency past ↔ lastBuilt? other past = some value)
    (hvalue : built = true ∨ lastBuilt? key past = some value) (other : κ) (otherValue : ν) :
    (other, otherValue) ∈ recency (.found key value built :: past) ↔
      lastBuilt? other (.found key value built :: past) = some otherValue := by
  rw [recency, lastBuilt?, List.mem_cons, List.mem_filter, h]
  by_cases hkey : key = other
  · subst hkey
    cases built with
    | true => simp [eq_comm]
    | false =>
      have hkept : lastBuilt? key past = some value := hvalue.resolve_left Bool.false_ne_true
      simp [hkept, eq_comm]
  · simp [hkey, Ne.symm hkey]

/-- There is no value under a key exactly if no entry has the key. -/
theorem get?_eq_none_iff (store : Lru κ ν) (key : κ) :
    store.get? key = none ↔ key ∉ store.entries.map Prod.fst := by
  unfold get?
  rw [Option.map_eq_none_iff, List.find?_eq_none, List.mem_map, not_exists]
  refine forall_congr' fun entry => ?_
  simp

/-- There is no value under a key exactly if the key is not among the latest. -/
theorem History.Sound.get?_eq_none_iff (h : history.Sound capacity) (key : κ) :
    history.store.get? key = none ↔
      key ∉ ((recency history.past).map Prod.fst).take (max capacity 1) := by
  rw [Lru.get?_eq_none_iff, h.entries_eq, List.map_take]

/-- A key is in the order if a value was built for it since everything was forgotten. -/
theorem History.Sound.mem_keys_iff (h : history.Sound capacity) (key : κ) :
    key ∈ (recency history.past).map Prod.fst ↔ lastBuilt? key history.past ≠ none := by
  rw [Option.ne_none_iff_exists', List.mem_map]
  constructor
  · rintro ⟨⟨_, value⟩, hmem, rfl⟩
    exact ⟨value, (h.mem_iff _ _).mp hmem⟩
  · rintro ⟨value, hbuilt⟩
    exact ⟨(key, value), (h.mem_iff key value).mpr hbuilt, rfl⟩

/-! ## Look-ups -/

section
variable {store : Lru κ ν} {key : κ} {value : ν} {build : Unit → Option ν}

/-- A value that is kept is not built. -/
theorem getOrBuild_of_kept (hget : store.get? key = some value) :
    store.getOrBuild key build = ⟨some value, false, store.promote key value⟩ := by
  simp only [getOrBuild, hget]

/-- A value that is not kept is built. -/
theorem getOrBuild_of_built (hget : store.get? key = none) (hbuild : build () = some value) :
    store.getOrBuild key build = ⟨some value, true, store.insert key value⟩ := by
  simp only [getOrBuild, hget, hbuild]

/-- A value that cannot be built leaves the store as it was. -/
theorem getOrBuild_of_failed (hget : store.get? key = none) (hbuild : build () = none) :
    store.getOrBuild key build = ⟨none, true, store⟩ := by
  simp only [getOrBuild, hget, hbuild]

/-- A value is built exactly if none is kept. -/
theorem built_getOrBuild_iff :
    (store.getOrBuild key build).built = true ↔ store.get? key = none := by
  cases hget : store.get? key with
  | some value =>
    rw [getOrBuild_of_kept hget]
    simp
  | none =>
    cases hbuild : build () with
    | some value =>
      rw [getOrBuild_of_built hget hbuild]
      exact iff_of_true rfl rfl
    | none =>
      rw [getOrBuild_of_failed hget hbuild]
      exact iff_of_true rfl rfl

end

/-- A value is built exactly if none was built for the key since everything was forgotten, or if so
many other keys have been found since that there is no room for it. -/
theorem History.Sound.built_iff (h : history.Sound capacity) (key : κ)
    (build : Unit → Option ν) : (history.store.getOrBuild key build).built = true ↔
      lastBuilt? key history.past = none ∨
        max capacity 1 ≤ (foundSince key history.past).card := by
  rw [built_getOrBuild_iff, h.get?_eq_none_iff, mem_take_iff_length_takeWhile_lt, not_and_or,
    Nat.not_lt]
  by_cases hmem : key ∈ (recency history.past).map Prod.fst
  · rw [length_takeWhile_recency hmem, h.mem_keys_iff, not_not]
  · have hnone := not_not.mp (mt (h.mem_keys_iff key).mpr hmem)
    exact iff_of_true (.inl hmem) (.inl hnone)

/-- A value that is kept is the one last built for the key. -/
theorem History.Sound.lastBuilt?_of_get? (h : history.Sound capacity) {key : κ} {value : ν}
    (hget : history.store.get? key = some value) :
    lastBuilt? key history.past = some value := by
  have hentry := mem_of_get? hget
  rw [h.entries_eq] at hentry
  exact (h.mem_iff key value).mp (List.mem_of_mem_take hentry)

/-- A value that is not built is the one last built for the key. -/
theorem History.Sound.value_eq (h : history.Sound capacity) {key : κ}
    {build : Unit → Option ν} (hkept : (history.store.getOrBuild key build).built = false) :
    (history.store.getOrBuild key build).value = lastBuilt? key history.past := by
  cases hget : history.store.get? key with
  | some value => rw [getOrBuild_of_kept hget, h.lastBuilt?_of_get? hget]
  | none => exact absurd (built_getOrBuild_iff.mpr hget) (Bool.not_eq_true _ ▸ hkept)

/-- A value that is not kept is the one that is built. -/
theorem value_of_built {store : Lru κ ν} {key : κ} {build : Unit → Option ν}
    (hbuilt : (store.getOrBuild key build).built = true) :
    (store.getOrBuild key build).value = build () := by
  have hget := built_getOrBuild_iff.mp hbuilt
  cases hbuild : build () with
  | some value => rw [getOrBuild_of_built hget hbuild]
  | none => rw [getOrBuild_of_failed hget hbuild]

/-- A value that has to be built and cannot be leaves the store as it was. -/
theorem store_of_failed {store : Lru κ ν} {key : κ} {build : Unit → Option ν}
    (hbuilt : (store.getOrBuild key build).built = true) (hbuild : build () = none) :
    (store.getOrBuild key build).store = store := by
  rw [getOrBuild_of_failed (built_getOrBuild_iff.mp hbuilt) hbuild]

/-- A store never has more entries than there is room for. -/
theorem History.Sound.size_le (h : history.Sound capacity) :
    history.store.size ≤ max capacity 1 := by
  unfold size
  rw [h.entries_eq]
  exact List.length_take_le _ _

/-- A look-up keeps to what the history says. -/
theorem History.Sound.after_lookUp (h : history.Sound capacity) (key : κ) (build : Option ν) :
    (history.after (.lookUp key build)).Sound capacity := by
  obtain ⟨room, hroom⟩ : ∃ room, max capacity 1 = room + 1 :=
    ⟨max capacity 1 - 1, by omega⟩
  have hentries := h.entries_eq
  rw [hroom] at hentries
  change History.Sound capacity ⟨(history.store.getOrBuild key fun _ => build).store,
    (history.store.getOrBuild key fun _ => build).event key :: history.past⟩
  cases hget : history.store.get? key with
  | some value =>
    rw [getOrBuild_of_kept hget]
    have hvalue := h.lastBuilt?_of_get? hget
    refine ⟨h.capacity_eq, ?_, mem_recency_found_iff h.mem_iff (.inr hvalue)⟩
    have hmem : key ∈ ((recency history.past).take (room + 1)).map Prod.fst := by
      rw [← hentries]
      exact List.mem_map.mpr ⟨_, mem_of_get? hget, rfl⟩
    change (key, value) :: history.store.entries.filter _ = List.take _ (_ :: _)
    rw [hentries, hroom, List.take_succ_cons, filter_take_of_mem (nodup_recency _) hmem]
  | none =>
    cases build with
    | none =>
      rw [getOrBuild_of_failed hget rfl]
      exact ⟨h.capacity_eq, h.entries_eq, h.mem_iff⟩
    | some value =>
      rw [getOrBuild_of_built hget rfl]
      refine ⟨h.capacity_eq, ?_, mem_recency_found_iff h.mem_iff (.inl rfl)⟩
      rw [h.get?_eq_none_iff, hroom, ← List.map_take] at hget
      have hothers : ∀ entry ∈ (recency history.past).take room, (!(entry.1 == key)) = true := by
        intro entry hentry
        have hne : entry.1 ≠ key := by
          rintro rfl
          have hlater := List.take_subset_take_left _ (Nat.le_succ room) hentry
          exact hget (List.mem_map.mpr ⟨entry, hlater, rfl⟩)
        simpa using hne
      change List.take history.store.capacity (_ :: history.store.entries) = List.take _ (_ :: _)
      rw [h.capacity_eq, hentries, hroom, List.take_succ_cons, List.take_succ_cons,
        take_filter_of_forall hothers, List.take_take, Nat.min_eq_left (Nat.le_succ room)]

/-- Every call keeps to what the history says. -/
theorem History.Sound.after (h : history.Sound capacity) (call : Call κ ν) :
    (history.after call).Sound capacity := by
  cases call with
  | lookUp key build => exact h.after_lookUp key build
  | clear => exact h.after_clear

/-- Any calls keep to what the history says. -/
theorem History.Sound.foldl_after (h : history.Sound capacity) (calls : List (Call κ ν)) :
    (calls.foldl History.after history).Sound capacity := by
  induction calls generalizing history with
  | nil => exact h
  | cons call calls ih => exact ih (h.after call)

/-- The store of every history keeps what was found last. -/
theorem sound_historyOf (capacity : Nat) (calls : List (Call κ ν)) :
    (historyOf capacity calls).Sound capacity :=
  (sound_empty capacity).foldl_after calls

end QueryGate.Lru

namespace QueryGate.Plugin.ExpressionSyntax

/-! ## Plugins with a store -/

/-- The constraint that a plugin is told to read. -/
def Use.constraint? : Use → Option String
  | .read constraint => some constraint
  | .close => none

/-- What a plugin that is used tells its store to do. -/
def callsOf (form : ExpressionSyntax) : Use → List (Lru.Call String Regex)
  | .read constraint =>
    match afterKeyword? form.keyword constraint with
    | none => []
    | some [] => []
    | some expression =>
      [.lookUp (String.ofList expression) (form.compile (String.ofList expression))]
  | .close => [.clear]

/-- What a plugin hands out while it is used, in order. -/
def handedOut (form : ExpressionSyntax) (store : Store) : List Use → List Outcome
  | [] => []
  | .read constraint :: uses =>
    let answer := form.parseWith store constraint
    answer.1 :: form.handedOut answer.2 uses
  | .close :: uses => form.handedOut store.clear uses

/-- A plugin that is used does with its store what it tells it to do. -/
theorem store_foldl_callsOf (form : ExpressionSyntax) (history : Lru.History String Regex)
    (use : Use) : ((form.callsOf use).foldl Lru.History.after history).store =
      form.storeAfter history.store use := by
  cases use with
  | close => rfl
  | read constraint =>
    unfold callsOf storeAfter parseWith
    dsimp only
    cases afterKeyword? form.keyword constraint with
    | none => rfl
    | some expression =>
      cases expression with
      | nil => rfl
      | cons c rest => rfl

/-- The store of a plugin has a history of look-ups and calls to forget. -/
theorem exists_store_historyOf (form : ExpressionSyntax) (capacity : Nat) (uses : List Use) :
    ∃ calls, uses.foldl form.storeAfter (Lru.empty capacity) =
      (Lru.historyOf capacity calls).store := by
  refine ⟨uses.flatMap form.callsOf, ?_⟩
  have hstore (history : Lru.History String Regex) : uses.foldl form.storeAfter history.store =
      ((uses.flatMap form.callsOf).foldl Lru.History.after history).store := by
    induction uses generalizing history with
    | nil => rfl
    | cons use uses ih =>
      rw [List.foldl_cons, ← store_foldl_callsOf, ih, List.flatMap_cons, List.foldl_append]
  exact hstore ⟨Lru.empty capacity, []⟩

/-- With a coherent store a plugin hands out what the constraints come to without one. -/
theorem handedOut_eq {form : ExpressionSyntax} {store : Store}
    (h : store.Coherent form.compile) (uses : List Use) :
    form.handedOut store uses = (uses.filterMap Use.constraint?).map form.parse := by
  induction uses generalizing store with
  | nil => rfl
  | cons use uses ih =>
    have hothers := ih (coherent_storeAfter h use)
    cases use with
    | read constraint => exact congrArg₂ List.cons (fst_parseWith h constraint) hothers
    | close => exact hothers

/-- Stores for expressions are bounded and transparent. After any calls a store has no more entries
than there is room for, where no room counts as room for one. An expression is then built exactly if
none was built for its key since the store was emptied, or if as many other keys as there is room
for were found since the key was. Otherwise it is the one last built for the key. If it has to be
built and cannot be, the store stays as it is. The store of a plugin is one of these, and all that
the plugin hands out while it is used and emptied, before as well as after, is what the constraints
come to without a store. -/
theorem kept_expressions_are_transparent (capacity : Nat) :
    (∀ calls : List (Lru.Call String Regex),
      let history := Lru.historyOf capacity calls
      history.store.size ≤ max capacity 1 ∧
      ∀ (key : String) (build : Unit → Option Regex),
        let answer := history.store.getOrBuild key build
        (answer.built = true ↔ Lru.lastBuilt? key history.past = none ∨
          max capacity 1 ≤ (Lru.foundSince key history.past).card) ∧
        (answer.built = false → answer.value = Lru.lastBuilt? key history.past) ∧
        (answer.built = true → answer.value = build () ∧
          (build () = none → answer.store = history.store))) ∧
    ∀ (form : ExpressionSyntax) (uses : List Use),
      (∃ calls, uses.foldl form.storeAfter (Lru.empty capacity) =
        (Lru.historyOf capacity calls).store) ∧
      form.handedOut (Lru.empty capacity) uses =
        (uses.filterMap Use.constraint?).map form.parse := by
  refine ⟨?_, fun form uses => ⟨form.exists_store_historyOf capacity uses,
    handedOut_eq (Lru.coherent_empty form.compile capacity) uses⟩⟩
  intro calls history
  have hsound : history.Sound capacity := Lru.sound_historyOf capacity calls
  exact ⟨hsound.size_le, fun key build => ⟨hsound.built_iff key build, hsound.value_eq,
    fun hbuilt => ⟨Lru.value_of_built hbuilt, Lru.store_of_failed hbuilt⟩⟩⟩

/-- A store without room keeps one expression, and one that cannot be built does not drive it
out. -/
theorem kept_expressions_are_transparent_one :
    let history := Lru.historyOf 0 [.lookUp "a" (some (Regex.char 'a')),
      .lookUp "b" (some (Regex.char 'b')), .lookUp "(" none]
    (history.store.getOrBuild "a" fun _ => none).built = true ∧
      (history.store.getOrBuild "a" fun _ => none).store = history.store ∧
      (history.store.getOrBuild "b" fun _ => none).built = false ∧
      (history.store.getOrBuild "b" fun _ => none).value = some (Regex.char 'b') := by
  intro history
  obtain ⟨hstores, _⟩ := kept_expressions_are_transparent 0
  obtain ⟨_, hanswers⟩ := hstores [.lookUp "a" (some (Regex.char 'a')),
    .lookUp "b" (some (Regex.char 'b')), .lookUp "(" none]
  obtain ⟨hbuilt, _, hfailed⟩ := hanswers "a" fun _ => none
  obtain ⟨_, hkept, _⟩ := hanswers "b" fun _ => none
  have hagain := hbuilt.mpr (.inr (by decide +kernel))
  exact ⟨hagain, (hfailed hagain).2 rfl, rfl, hkept rfl⟩

end QueryGate.Plugin.ExpressionSyntax
