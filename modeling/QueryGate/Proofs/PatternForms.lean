import Mathlib.Data.List.TakeWhile
import QueryGate.Proofs.GlobText
import QueryGate.Proofs.Lookup

/-!
# Forms of patterns

A pattern without two slashes in a row has one of a few forms, and the form decides how the pattern
is compared with a path. The main statement is that every way of comparing does what a glob does:
a path is matched when it is the pattern with some run of characters in place of each wildcard.
Only where the wildcards at the end follow a slash is one path more matched, the one before that
slash. A pattern takes what a store keeps under its text for its expression, so it has to be that;
whatever is kept while patterns are matched is.
-/

namespace QueryGate.Text

/-! ## Trailing characters -/

/-- A text is what is left of it and the trailing run that was removed. -/
theorem exists_eq_dropTrailing_append (c : Char) (cs : List Char) :
    ∃ n, cs = dropTrailing c cs ++ List.replicate n c := by
  have hrun : cs.reverse.takeWhile (· == c) =
      List.replicate (cs.reverse.takeWhile (· == c)).length c :=
    List.eq_replicate_of_mem fun d hd => by simpa using List.mem_takeWhile_imp hd
  have hparts := List.takeWhile_append_dropWhile (p := (· == c)) (l := cs.reverse)
  rw [hrun] at hparts
  refine ⟨(cs.reverse.takeWhile (· == c)).length, ?_⟩
  rw [dropTrailing, ← List.reverse_inj, List.reverse_append, List.reverse_reverse,
    List.reverse_replicate, hparts]

/-- What is left does not end with the character that was removed. -/
theorem getLast?_dropTrailing_ne (c : Char) (cs : List Char) :
    (dropTrailing c cs).getLast? ≠ some c := by
  intro hlast
  rw [dropTrailing, List.getLast?_reverse] at hlast
  have hfirst := List.head?_dropWhile_not (· == c) cs.reverse
  rw [hlast] at hfirst
  simp at hfirst

end QueryGate.Text

namespace QueryGate.Pattern

open QueryGate.Text

/-! ## The form of a pattern -/

/-- The forms of texts without two slashes in a row, each with the mode of its patterns. -/
inductive Form : List Char → Mode → Prop where
  /-- A text without wildcards. -/
  | exact {cs : List Char} (hplain : '*' ∉ cs) : Form cs .exact
  /-- Nothing but wildcards. -/
  | stars (n : Nat) : Form (List.replicate (n + 1) '*') .all
  /-- Nothing but wildcards behind a slash. -/
  | root (n : Nat) : Form ('/' :: List.replicate (n + 1) '*') .all
  /-- Wildcards right behind a stem. -/
  | glued {stem : List Char} (n : Nat) (hne : stem ≠ []) (hplain : '*' ∉ stem)
    (hslash : stem.getLast? ≠ some '/') :
    Form (stem ++ List.replicate (n + 1) '*') (.stem stem false)
  /-- Wildcards behind a stem and a slash. -/
  | boundary {stem : List Char} (n : Nat) (hne : stem ≠ []) (hplain : '*' ∉ stem)
    (hslash : stem.getLast? ≠ some '/') :
    Form (stem ++ '/' :: List.replicate (n + 1) '*') (.stem stem true)
  /-- A wildcard with something other than wildcards behind it. -/
  | wildcard {before after : List Char} {c : Char} (hc : c ∈ after) (hstar : c ≠ '*') :
    Form (before ++ '*' :: after) .wildcard

/-- A wildcard in a text that does not end with one has something else behind it. -/
theorem form_wildcard {cs : List Char} (tail : List Char) (hmem : '*' ∈ cs)
    (hlast : cs.getLast? ≠ some '*') : Form (cs ++ tail) .wildcard := by
  obtain ⟨before, after, rfl⟩ := List.append_of_mem hmem
  cases hafter : after.getLast? with
  | none =>
    rw [List.getLast?_eq_none_iff.mp hafter] at hlast
    simp at hlast
  | some c =>
    have hc := List.mem_of_getLast? hafter
    have hstar : c ≠ '*' := by
      rintro rfl
      simp [List.getLast?_append, List.getLast?_cons, hafter] at hlast
    rw [List.append_assoc, List.cons_append]
    exact .wildcard (List.mem_append_left tail hc) hstar

/-- A text that ends with a wildcard has at least one removed. -/
theorem exists_wildcards {cs : List Char} (hend : cs.getLast? = some '*') :
    ∃ n, cs = dropTrailing '*' cs ++ List.replicate (n + 1) '*' := by
  obtain ⟨n, hcs⟩ := exists_eq_dropTrailing_append '*' cs
  cases n with
  | zero =>
    rw [List.replicate_zero, List.append_nil] at hcs
    exact absurd (hcs ▸ hend) (getLast?_dropTrailing_ne '*' cs)
  | succ n => exact ⟨n, hcs⟩

/-- A text without two slashes in a row has one slash removed at most. -/
theorem eq_or_eq_append_slash {cs : List Char} (hslashes : ¬['/', '/'] <:+: cs) :
    cs = dropTrailing '/' cs ∨ cs = dropTrailing '/' cs ++ ['/'] := by
  obtain ⟨n, hcs⟩ := exists_eq_dropTrailing_append '/' cs
  match n with
  | 0 => exact .inl (by simpa using hcs)
  | 1 => exact .inr hcs
  | n + 2 =>
    have hsplit : dropTrailing '/' cs ++ ['/', '/'] ++ List.replicate n '/' = cs := by
      simpa [List.replicate_succ] using hcs.symm
    exact absurd ⟨dropTrailing '/' cs, List.replicate n '/', hsplit⟩ hslashes

/-- Every text without two slashes in a row has one of the forms, and its mode. -/
theorem form_ofText {cs : List Char} (hslashes : ¬['/', '/'] <:+: cs) :
    Form cs (Mode.ofText cs) := by
  unfold Mode.ofText
  by_cases hplain : '*' ∈ cs
  swap
  · rw [if_pos (by simpa using hplain)]
    exact .exact hplain
  rw [if_neg (by simpa using hplain)]
  by_cases hend : cs.getLast? = some '*'
  swap
  · rw [if_neg hend]
    have hform := form_wildcard [] hplain hend
    rwa [List.append_nil] at hform
  rw [if_pos hend]
  obtain ⟨n, hcs⟩ := exists_wildcards hend
  have hstarlessLast := getLast?_dropTrailing_ne '*' cs
  have hstemLast := getLast?_dropTrailing_ne '/' (dropTrailing '*' cs)
  have hfree : ¬['/', '/'] <:+: dropTrailing '*' cs :=
    fun h => hslashes (h.trans ⟨[], List.replicate (n + 1) '*', hcs.symm⟩)
  have hslash := eq_or_eq_append_slash hfree
  dsimp only
  generalize dropTrailing '*' cs = starless at hcs hstarlessLast hstemLast hslash ⊢
  generalize dropTrailing '/' starless = stem at hstemLast hslash ⊢
  by_cases hinner : '*' ∈ stem
  · rw [if_pos (by simpa using hinner), hcs]
    refine form_wildcard _ ?_ hstarlessLast
    rcases hslash with rfl | rfl
    · exact hinner
    · exact List.mem_append_left _ hinner
  rw [if_neg (by simpa using hinner), hcs]
  by_cases hempty : stem = []
  · subst hempty
    rw [if_pos List.isEmpty_nil]
    rcases hslash with rfl | rfl
    · exact .stars n
    · exact .root n
  rw [if_neg (by simpa using hempty)]
  rcases hslash with rfl | rfl
  · rw [decide_eq_false hstemLast]
    exact .glued n hempty hinner hstemLast
  · rw [decide_eq_true List.getLast?_concat, List.append_assoc]
    exact .boundary n hempty hinner hstemLast

/-! ## Matching a path -/

/-- A stem admits the paths that start with it and, at a boundary, end or go on with a slash
there. -/
theorem stemMatches_iff {stem : List Char} {boundary : Bool} {path : String} :
    Mode.stemMatches stem boundary path = true ↔
      ∃ rest, path.toList = stem ++ rest ∧
        (boundary = true → rest = [] ∨ rest.head? = some '/') := by
  unfold Mode.stemMatches
  cases hrest : stem.isPrefixOf? path.toList with
  | none =>
    refine iff_of_false Bool.false_ne_true ?_
    rintro ⟨rest, hpath, -⟩
    rw [isPrefixOf?_eq_some_iff.mpr hpath] at hrest
    cases hrest
  | some rest =>
    rw [isPrefixOf?_eq_some_iff] at hrest
    simp only [hrest, List.append_cancel_left_eq, exists_eq_left']
    cases boundary <;> simp

/-- A stem without a boundary admits the paths that start with it. -/
theorem stemMatches_glued_iff {stem : List Char} {path : String} :
    Mode.stemMatches stem false path = true ↔ stem <+: path.toList := by
  rw [stemMatches_iff]
  simp [List.IsPrefix, eq_comm]

/-- A stem at a boundary admits itself and the paths that start with it and a slash. -/
theorem stemMatches_boundary_iff {stem : List Char} {path : String} :
    Mode.stemMatches stem true path = true ↔
      stem ++ ['/'] <+: path.toList ∨ path.toList = stem := by
  rw [stemMatches_iff]
  constructor
  · rintro ⟨rest, hpath, hrest⟩
    rcases hrest rfl with rfl | hslash
    · exact .inr (by simpa using hpath)
    · obtain ⟨after, rfl⟩ := List.head?_eq_some_iff.mp hslash
      exact .inl ⟨after, by simpa using hpath.symm⟩
  · rintro (⟨after, hpath⟩ | hpath)
    · exact ⟨'/' :: after, by simpa using hpath.symm, fun _ => .inr rfl⟩
    · exact ⟨[], by simpa using hpath, fun _ => .inl rfl⟩

/-- A pattern with this text matches the path by its mode. -/
def Mode.Admits (mode : Mode) (text path : String) : Prop :=
  match mode with
  | .exact => False
  | .all => True
  | .stem start boundary => stemMatches start boundary path = true
  | .wildcard => (toRegex? text).any (·.search path) = true

/-- A pattern matches the path that is its text, and what its mode admits. -/
theorem matchesPath_iff {pattern : Pattern} {path : String} :
    pattern.matchesPath path = true ↔
      pattern.text = path ∨ pattern.mode.Admits pattern.text path := by
  unfold matchesPath Mode.Admits
  rw [Bool.or_eq_true, beq_iff_eq]
  cases pattern.mode <;> simp

/-- The expression of the pattern is not too large, if it needs one. -/
def Fits (text : String) : Prop :=
  Mode.ofText text.toList = .wildcard → Glob.Fits false text

/-- Each form admits the paths that fill the text as a glob. Wildcards behind a stem and a slash
admit the stem besides. -/
theorem Form.admits_iff {text path : String} {mode : Mode} (h : Form text.toList mode)
    (hfits : mode = .wildcard → Glob.Fits false text)
    (hrooted : path.toList.head? = some '/') (hline : '\n' ∉ path.toList) :
    text = path ∨ mode.Admits text path ↔ Glob.Fills false text.toList path.toList ∨
      ∃ stem n, mode = .stem stem true ∧
        text.toList = stem ++ '/' :: List.replicate (n + 1) '*' ∧ path.toList = stem := by
  have hself : text = path → Glob.Fills false text.toList path.toList := by
    rintro rfl
    exact .refl false text.toList
  have hsearch (hmode : mode = .wildcard) := Glob.search_compile?_iff (hfits hmode) hline
  generalize hcs : text.toList = cs at h hself hsearch ⊢
  cases h with
  | exact hplain =>
    have hfills : Glob.Fills false cs path.toList ↔ path.toList = cs :=
      Glob.fills_iff_eq hplain nofun
    rw [hfills, ← hcs, String.toList_inj, eq_comm]
    simp [Mode.Admits]
  | stars n =>
    have hfills := Glob.fills_replicate false n path.toList
    exact iff_of_true (.inr trivial) (.inl hfills)
  | root n =>
    obtain ⟨rest, hpath⟩ := List.head?_eq_some_iff.mp hrooted
    have hfills : Glob.Fills false ('/' :: List.replicate (n + 1) '*') path.toList :=
      hpath ▸ .literal (by decide) nofun (Glob.fills_replicate false n rest)
    exact iff_of_true (.inr trivial) (.inl hfills)
  | @glued stem n hne hplain hslash =>
    have hadmits : Mode.Admits (.stem stem false) text path ↔ stem <+: path.toList :=
      stemMatches_glued_iff
    rw [hadmits, ← Glob.fills_stem_iff hplain n, or_iff_right_of_imp hself]
    simp
  | @boundary stem n hne hplain hslash =>
    have hadmits : Mode.Admits (.stem stem true) text path ↔
        stem ++ ['/'] <+: path.toList ∨ path.toList = stem := stemMatches_boundary_iff
    have hstem : (∃ stem' n', Mode.stem stem true = .stem stem' true ∧
        stem ++ '/' :: List.replicate (n + 1) '*' = stem' ++ '/' :: List.replicate (n' + 1) '*' ∧
          path.toList = stem') ↔ path.toList = stem := by
      constructor
      · rintro ⟨_, _, hmode, -, hpath⟩
        cases hmode
        exact hpath
      · exact fun hpath => ⟨stem, n, rfl, rfl, hpath⟩
    have hslashed : '*' ∉ stem ++ ['/'] := by
      simp [hplain]
    rw [List.append_cons] at hself ⊢
    rw [hadmits, ← Glob.fills_stem_iff hslashed n, ← or_assoc, or_iff_right_of_imp hself]
    rw [← List.append_cons, hstem]
  | wildcard hc hstar =>
    have hadmits : Mode.Admits .wildcard text path ↔
        (Glob.compile? false text).any (·.search path) = true := Iff.rfl
    rw [hadmits, hsearch rfl]
    constructor
    · rintro (h | h)
      · exact .inl (hself h)
      · exact .inl h
    · rintro (h | ⟨_, _, hmode, -⟩)
      · exact .inr h
      · cases hmode

/-- The path is the text with some run of characters in place of each wildcard, or it is the part of
the text before the slash at which its trailing wildcards stand. -/
def Meant (text path : String) : Prop :=
  Glob.Fills false text.toList path.toList ∨
    ∃ stem n, (ofText text).mode = .stem stem true ∧
      text.toList = stem ++ '/' :: List.replicate (n + 1) '*' ∧ path.toList = stem

/-- Every text without two slashes in a row matches the paths that are meant. -/
theorem matchesPath_ofText_iff {text path : String} (hslashes : ¬['/', '/'] <:+: text.toList)
    (hrooted : path.toList.head? = some '/') (hline : '\n' ∉ path.toList) (hfits : Fits text) :
    (ofText text).matchesPath path = true ↔ Meant text path :=
  matchesPath_iff.trans ((form_ofText hslashes).admits_iff hfits hrooted hline)

/-! ## Stores -/

/-- What a store keeps under a text, if anything, is the expression of the text. -/
def KeptFor (text : String) (store : Lru String Regex) : Prop :=
  ∀ regex, store.get? text = some regex → toRegex? text = some regex

/-- What a store is used for. -/
inductive StoreUse where
  /-- To match a pattern with a path. -/
  | matchPath (pattern : Pattern) (path : String)
  /-- To forget everything. -/
  | clear

/-- The store after it was used. -/
def storeAfter (store : Lru String Regex) : StoreUse → Lru String Regex
  | .matchPath pattern path => (pattern.matchesPathIn path store).2
  | .clear => store.clear

/-- A store that is used for patterns alone keeps nothing but their expressions. -/
theorem coherent_foldl_storeAfter {store : Lru String Regex} (h : store.Coherent toRegex?)
    (uses : List StoreUse) : (uses.foldl storeAfter store).Coherent toRegex? := by
  induction uses generalizing store with
  | nil => exact h
  | cons use uses ih =>
    cases use with
    | matchPath pattern path => exact ih (coherent_matchesPathIn h pattern path)
    | clear => exact ih (Lru.coherent_clear toRegex? store)

/-- The ways of comparing a pattern with a path agree with plain globs, whatever is kept under other
texts: a rooted path without a line feed is matched when it is the text with some run of characters
in place of each wildcard, or when it is the part of the text before the slash at which its trailing
wildcards stand. A pattern that needs an expression takes what is kept under its text, so that has
to be the expression of the text. In a store that was used for nothing but matching patterns, and
was emptied now and then, it always is. -/
theorem matchesPathIn_iff_meant {text path : String} (hslashes : ¬['/', '/'] <:+: text.toList)
    (hrooted : path.toList.head? = some '/') (hline : '\n' ∉ path.toList) (hfits : Fits text) :
    (∀ store : Lru String Regex, ((ofText text).mode = .wildcard → KeptFor text store) →
      (((ofText text).matchesPathIn path store).1 = true ↔ Meant text path)) ∧
    ∀ (capacity : Nat) (uses : List StoreUse),
      ((ofText text).matchesPathIn path (uses.foldl storeAfter (.empty capacity))).1 = true ↔
        Meant text path := by
  have hmatches (store : Lru String Regex)
      (hkept : (ofText text).mode = .wildcard → KeptFor text store) :
      ((ofText text).matchesPathIn path store).1 = true ↔ Meant text path := by
    rw [fst_matchesPathIn hkept]
    exact matchesPath_ofText_iff hslashes hrooted hline hfits
  refine ⟨hmatches, fun capacity uses => hmatches _ fun _ regex hget => ?_⟩
  have hcoherent := coherent_foldl_storeAfter (Lru.coherent_empty toRegex? capacity) uses
  exact hcoherent.build_eq hget

/-- A store in which an expression was put under a text by hand. -/
def foreignStore : Lru String Regex :=
  ((Lru.empty 4 : Lru String Regex).getOrBuild "*b" fun _ =>
    Regex.parseWith? .basic Regex.defaultSizeLimit "^b$".toList).store

/-- A pattern with a wildcard inside and one at its end is compared like the glob, whether a store
keeps nothing or something under another text. -/
theorem matchesPathIn_meant_item :
    (((ofText "/api/*/item.*").matchesPathIn "/api/v1/item.42" foreignStore).1 = true ↔
      Meant "/api/*/item.*" "/api/v1/item.42") ∧ Meant "/api/*/item.*" "/api/v1/item.42" := by
  have hslashes : ¬['/', '/'] <:+: "/api/*/item.*".toList := by simp [List.infix_cons_iff]
  have hrooted : "/api/v1/item.42".toList.head? = some '/' := by decide
  have hline : '\n' ∉ "/api/v1/item.42".toList := by decide
  have hfits : Fits "/api/*/item.*" := fun _ => by decide +kernel
  have hkept : KeptFor "/api/*/item.*" foreignStore := by
    intro regex hget
    have hnone : (foreignStore.get? "/api/*/item.*").isNone = true := by decide +kernel
    rw [hget] at hnone
    cases hnone
  have hmatched :
      ((ofText "/api/*/item.*").matchesPathIn "/api/v1/item.42" (.empty 4)).1 = true := by
    decide +kernel
  have hmatches := matchesPathIn_iff_meant hslashes hrooted hline hfits
  exact ⟨hmatches.1 foreignStore fun _ => hkept, (hmatches.2 4 []).mp hmatched⟩

/-- A store may hold another expression under the text of a pattern, put there by whoever shares the
store. Then the pattern misses a path that it means. -/
theorem matchesPathIn_foreign_expression :
    ¬['/', '/'] <:+: "*b".toList ∧ "/xb".toList.head? = some '/' ∧ '\n' ∉ "/xb".toList ∧
      Fits "*b" ∧ Meant "*b" "/xb" ∧
      ((ofText "*b").matchesPathIn "/xb" foreignStore).1 = false := by
  have hfits : Fits "*b" := fun _ => by decide +kernel
  have hfills : Glob.Fills false "*b".toList "/xb".toList :=
    .run ['/', 'x'] (.literal (by decide) nofun .nothing)
  exact ⟨by simp [List.infix_cons_iff], by decide, by decide, hfits, .inl hfills, by decide +kernel⟩

end QueryGate.Pattern
