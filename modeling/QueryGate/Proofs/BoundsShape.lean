import QueryGate.Proofs.Numeral

/-!
# The shape of bounds

A text has the shape of bounds if it is two integers in digits of any script, joined by `-`, which
may have blanks on either side. No other way to cut a text leads to this shape, as neither a blank
nor a sign is a digit. Bounds are read exactly where the two integers are written in ASCII and fit
64 bits, so a text has the shape without being read exactly if it has an integer that does not fit
or a digit of another script.
-/

namespace QueryGate.Text

/-! ## Signed runs -/

/-- A text is a run of digits behind a sign or none. -/
inductive SignedRun (isDigit : Char → Bool) : List Char → Prop
  /-- Digits alone. -/
  | unsigned {digits : List Char} (h : Run isDigit digits) : SignedRun isDigit digits
  /-- Digits behind a plus. -/
  | plus {digits : List Char} (h : Run isDigit digits) : SignedRun isDigit ('+' :: digits)
  /-- Digits behind a minus. -/
  | minus {digits : List Char} (h : Run isDigit digits) : SignedRun isDigit ('-' :: digits)

variable {isDigit : Char → Bool} {cs body lower upper rest : List Char} {n m : Int}

/-- The texts that denote integers are the signed runs of ASCII digits. -/
theorem signedRun_isDigit_iff : SignedRun Char.isDigit cs ↔ ∃ n, Denotes cs n := by
  constructor
  · rintro (h | h | h)
    · exact ⟨_, .unsigned h⟩
    · exact ⟨_, .plus h⟩
    · exact ⟨_, .minus h⟩
  · rintro ⟨_, h | h | h⟩
    · exact .unsigned h
    · exact .plus h
    · exact .minus h

/-- A run of some of the characters of a kind is a run of this kind. -/
theorem SignedRun.imp {isDigit' : Char → Bool} (h : SignedRun isDigit cs)
    (himp : ∀ c ∈ cs, isDigit c = true → isDigit' c = true) : SignedRun isDigit' cs := by
  cases h with
  | unsigned h => exact .unsigned ⟨h.1, fun c hc => himp c hc (h.2 c hc)⟩
  | plus h => exact .plus ⟨h.1, fun c hc => himp c (.tail _ hc) (h.2 c hc)⟩
  | minus h => exact .minus ⟨h.1, fun c hc => himp c (.tail _ hc) (h.2 c hc)⟩

/-! ## Cutting -/

/-- The characters of a kind at the start of a text are a run that a character of another kind or
the end of the text follows. -/
theorem takeWhile_and_dropWhile_iff {digits : List Char} :
    (cs.takeWhile isDigit = digits ∧ cs.dropWhile isDigit = rest) ↔
      cs = digits ++ rest ∧ (∀ c ∈ digits, isDigit c = true) ∧
        ∀ c ∈ rest.head?, isDigit c = false := by
  constructor
  · rintro ⟨rfl, rfl⟩
    refine ⟨List.takeWhile_append_dropWhile.symm, fun c => List.mem_takeWhile_imp, fun c hc => ?_⟩
    have hnot := List.head?_dropWhile_not isDigit cs
    rw [hc] at hnot
    simpa using hnot
  · rintro ⟨rfl, hdigits, hrest⟩
    have hstop : rest.takeWhile isDigit = [] ∧ rest.dropWhile isDigit = rest := by
      cases rest with
      | nil => exact ⟨rfl, rfl⟩
      | cons c rest => simp [hrest c rfl]
    rw [List.takeWhile_append_of_pos hdigits, List.dropWhile_append_of_pos hdigits, hstop.1,
      hstop.2, List.append_nil]
    exact ⟨rfl, rfl⟩

/-- What follows the sign is the whole text if the text starts with none. -/
theorem takeInteger_of_unsigned {c : Char} {cs : List Char} (hplus : c ≠ '+') (hminus : c ≠ '-') :
    takeInteger (c :: cs) = if ((c :: cs).takeWhile isDecimalDigit).isEmpty then none
      else some ((c :: cs).takeWhile isDecimalDigit, (c :: cs).dropWhile isDecimalDigit) := by
  unfold takeInteger
  split
  next sign rest hsign =>
  split at hsign
  · next heq => exact absurd (List.cons.inj heq).1 hplus
  · next heq => exact absurd (List.cons.inj heq).1 hminus
  · cases hsign
    rfl

/-- What is taken off the start of a text is a signed run that no digit follows. -/
theorem takeInteger_eq_some_iff : takeInteger cs = some (lower, rest) ↔
    cs = lower ++ rest ∧ SignedRun isDecimalDigit lower ∧
      ∀ c ∈ rest.head?, isDecimalDigit c = false := by
  have htaken : ∀ ds sign : List Char,
      (if (ds.takeWhile isDecimalDigit).isEmpty then none
        else some (sign ++ ds.takeWhile isDecimalDigit, ds.dropWhile isDecimalDigit)) =
          some (lower, rest) ↔
        ∃ digits, lower = sign ++ digits ∧ ds = digits ++ rest ∧ Run isDecimalDigit digits ∧
          ∀ c ∈ rest.head?, isDecimalDigit c = false := by
    intro ds sign
    constructor
    · intro h
      split at h
      · cases h
      next hne =>
      cases h
      obtain ⟨hds, hdigits, hrest⟩ := takeWhile_and_dropWhile_iff.mp ⟨rfl, rfl⟩
      exact ⟨_, rfl, hds, ⟨by simpa using hne, hdigits⟩, hrest⟩
    · rintro ⟨digits, rfl, hds, hrun, hrest⟩
      obtain ⟨htake, hdrop⟩ := takeWhile_and_dropWhile_iff.mpr ⟨hds, hrun.2, hrest⟩
      rw [htake, hdrop, if_neg (by simpa using hrun.1)]
  constructor
  · intro h
    unfold takeInteger at h
    split at h
    next sign ds hsign =>
    obtain ⟨digits, rfl, rfl, hrun, hrest⟩ := (htaken _ _).mp h
    split at hsign
    · cases hsign
      exact ⟨rfl, .plus hrun, hrest⟩
    · cases hsign
      exact ⟨rfl, .minus hrun, hrest⟩
    · cases hsign
      exact ⟨rfl, .unsigned hrun, hrest⟩
  · rintro ⟨rfl, hrun, hrest⟩
    cases hrun with
    | unsigned hrun =>
      obtain ⟨c, digits, rfl⟩ := List.exists_cons_of_ne_nil hrun.1
      have hplus : c ≠ '+' := by
        rintro rfl
        exact absurd hrun.head (by decide)
      have hminus : c ≠ '-' := by
        rintro rfl
        exact absurd hrun.head (by decide)
      rw [List.cons_append, takeInteger_of_unsigned hplus hminus]
      exact (htaken (c :: digits ++ rest) []).mpr ⟨_, rfl, rfl, hrun, hrest⟩
    | plus hrun => exact (htaken _ _).mpr ⟨_, rfl, rfl, hrun, hrest⟩
    | minus hrun => exact (htaken _ _).mpr ⟨_, rfl, rfl, hrun, hrest⟩

/-- Trimming the start of a text leaves what is behind its first blanks. -/
theorem trimStart_eq_iff : trimStart cs = rest ↔ ∃ before, cs = before ++ rest ∧
    (∀ c ∈ before, isBlank c = true) ∧ ∀ c ∈ rest.head?, isBlank c = false :=
  ⟨fun h => ⟨_, takeWhile_and_dropWhile_iff.mp ⟨rfl, h⟩⟩,
    fun ⟨_, h⟩ => (takeWhile_and_dropWhile_iff.mpr h).2⟩

/-- A signed run starts with a sign or a digit, so with no blank. -/
theorem SignedRun.isBlank_head (h : SignedRun isDecimalDigit cs) :
    ∀ c ∈ cs.head?, isBlank c = false := by
  rintro c hc
  obtain ⟨rest, rfl⟩ := List.head?_eq_some_iff.mp hc
  cases h with
  | unsigned h => exact isBlank_of_isDecimalDigit h.head
  | plus _ => decide
  | minus _ => decide

/-- The text is two others joined by `-`, which may have blanks on either side. -/
def Joined (body lower upper : List Char) : Prop :=
  ∃ before after, (∀ c ∈ before ++ after, isBlank c = true) ∧
    body = lower ++ (before ++ '-' :: (after ++ upper))

/-- A text is cut into two signed runs exactly if it is these runs, joined. -/
theorem splitBounds?_eq_some_iff : splitBounds? body = some (lower, upper) ↔
    Joined body lower upper ∧ SignedRun isDecimalDigit lower ∧ SignedRun isDecimalDigit upper := by
  unfold splitBounds?
  constructor
  · intro h
    obtain ⟨⟨lower', rest⟩, htake, hjoin⟩ := Option.bind_eq_some_iff.mp h
    obtain ⟨hbody, hlower, _⟩ := takeInteger_eq_some_iff.mp htake
    dsimp only at hjoin
    split at hjoin
    next rest' htrim =>
      obtain ⟨before, hrest, hbefore, _⟩ := trimStart_eq_iff.mp htrim
      obtain ⟨⟨upper', left⟩, htake', hleft⟩ := Option.bind_eq_some_iff.mp hjoin
      obtain ⟨happend, hupper, _⟩ := takeInteger_eq_some_iff.mp htake'
      obtain ⟨after, hafter, hblank, _⟩ := trimStart_eq_iff.mp (Eq.refl (trimStart rest'))
      dsimp only at hleft
      split at hleft
      next hnil =>
        cases hleft
        rw [List.isEmpty_iff.mp hnil, List.append_nil] at happend
        refine ⟨⟨before, after, List.forall_mem_append.mpr ⟨hbefore, hblank⟩, ?_⟩, hlower, hupper⟩
        rw [hbody, hrest, hafter, happend]
      · cases hleft
    · cases hjoin
  · rintro ⟨⟨before, after, hblank, rfl⟩, hlower, hupper⟩
    obtain ⟨hbefore, hafter⟩ := List.forall_mem_append.mp hblank
    have htake : takeInteger (lower ++ (before ++ '-' :: (after ++ upper))) =
        some (lower, before ++ '-' :: (after ++ upper)) := by
      refine takeInteger_eq_some_iff.mpr ⟨rfl, hlower, fun c hc => ?_⟩
      cases before with
      | nil =>
        cases hc
        decide
      | cons b before =>
        cases hc
        exact isDecimalDigit_of_isBlank (hbefore c (List.mem_cons_self ..))
    have htrim : trimStart (before ++ '-' :: (after ++ upper)) = '-' :: (after ++ upper) :=
      trimStart_eq_iff.mpr ⟨before, rfl, hbefore, fun c hc => by
        cases hc
        decide⟩
    have htrim' : trimStart (after ++ upper) = upper :=
      trimStart_eq_iff.mpr ⟨after, rfl, hafter, hupper.isBlank_head⟩
    have htake' : takeInteger upper = some (upper, []) :=
      takeInteger_eq_some_iff.mpr ⟨(List.append_nil upper).symm, hupper, by simp⟩
    refine Option.bind_eq_some_iff.mpr ⟨_, htake, ?_⟩
    dsimp only
    rw [htrim]
    refine Option.bind_eq_some_iff.mpr ⟨(upper, []), ?_, rfl⟩
    rw [htrim']
    exact htake'

/-- A text has the shape of bounds if it is two signed runs, joined. -/
def Shaped (isDigit : Char → Bool) (body : List Char) : Prop :=
  ∃ lower upper, Joined body lower upper ∧ SignedRun isDigit lower ∧ SignedRun isDigit upper

/-- The shape is asked for with the digits of every script. -/
theorem hasBoundsShape_iff : hasBoundsShape body = true ↔ Shaped isDecimalDigit body := by
  unfold hasBoundsShape Shaped
  rw [Option.isSome_iff_exists, Prod.exists]
  simp only [splitBounds?_eq_some_iff]

/-! ## Reading -/

/-- The text is the two integers in ASCII digits, joined. -/
def SpellsBounds (body : List Char) (min max : Int) : Prop :=
  ∃ lower upper, Joined body lower upper ∧ Denotes lower min ∧ Denotes upper max

/-- An integer in ASCII digits is a signed run. -/
theorem Denotes.signedRun (h : Denotes cs n) : SignedRun isDecimalDigit cs :=
  (signedRun_isDigit_iff.mpr ⟨n, h⟩).imp fun _ _ => isDecimalDigit_of_isDigit

/-- A text spells at most one pair of bounds. -/
theorem SpellsBounds.unique {n' m' : Int} (h : SpellsBounds body n m)
    (h' : SpellsBounds body n' m') : n = n' ∧ m = m' := by
  obtain ⟨lower, upper, hjoined, hlower, hupper⟩ := h
  obtain ⟨lower', upper', hjoined', hlower', hupper'⟩ := h'
  have hsplit := splitBounds?_eq_some_iff.mpr ⟨hjoined, hlower.signedRun, hupper.signedRun⟩
  have hsplit' := splitBounds?_eq_some_iff.mpr ⟨hjoined', hlower'.signedRun, hupper'.signedRun⟩
  cases hsplit.symm.trans hsplit'
  exact ⟨hlower.unique hlower', hupper.unique hupper'⟩

/-- Bounds are read exactly from the texts that spell them, if they fit 64 bits. -/
theorem bounds?_eq_some_iff : bounds? body = some (n, m) ↔
    SpellsBounds body n m ∧ FitsWord n ∧ FitsWord m := by
  unfold bounds?
  constructor
  · intro h
    obtain ⟨⟨lower, upper⟩, hsplit, h⟩ := Option.bind_eq_some_iff.mp h
    obtain ⟨n', hn, h⟩ := Option.bind_eq_some_iff.mp h
    obtain ⟨m', hm, h⟩ := Option.bind_eq_some_iff.mp h
    cases h
    obtain ⟨hlower, hfits⟩ := integer?_eq_some_iff.mp hn
    obtain ⟨hupper, hfits'⟩ := integer?_eq_some_iff.mp hm
    exact ⟨⟨lower, upper, (splitBounds?_eq_some_iff.mp hsplit).1, hlower, hupper⟩, hfits, hfits'⟩
  · rintro ⟨⟨lower, upper, hjoined, hlower, hupper⟩, hfits, hfits'⟩
    have hsplit := splitBounds?_eq_some_iff.mpr ⟨hjoined, hlower.signedRun, hupper.signedRun⟩
    refine Option.bind_eq_some_iff.mpr ⟨(lower, upper), hsplit, ?_⟩
    refine Option.bind_eq_some_iff.mpr ⟨n, integer?_eq_some_iff.mpr ⟨hlower, hfits⟩, ?_⟩
    exact Option.bind_eq_some_iff.mpr ⟨m, integer?_eq_some_iff.mpr ⟨hupper, hfits'⟩, rfl⟩

/-- Two numerals joined by `-` spell the bounds that they denote. -/
theorem spellsBounds_numerals (min max : Int) :
    SpellsBounds (numeral min ++ '-' :: numeral max) min max :=
  ⟨_, _, ⟨[], [], nofun, rfl⟩, denotes_numeral min, denotes_numeral max⟩

/-- The text has a decimal digit that is none of ASCII. -/
def HasForeignDigit (body : List Char) : Prop :=
  ∃ c ∈ body, isDecimalDigit c = true ∧ c.isDigit = false

/-- A character of a text that denotes an integer is a sign or an ASCII digit. -/
theorem Denotes.mem (h : Denotes cs n) {c : Char} (hc : c ∈ cs) :
    c = '+' ∨ c = '-' ∨ c.isDigit = true := by
  cases h with
  | unsigned h => exact .inr (.inr (h.2 c hc))
  | plus h =>
    rcases List.mem_cons.mp hc with rfl | hc
    · exact .inl rfl
    · exact .inr (.inr (h.2 c hc))
  | minus h =>
    rcases List.mem_cons.mp hc with rfl | hc
    · exact .inr (.inl rfl)
    · exact .inr (.inr (h.2 c hc))

/-- A text that spells bounds has only ASCII digits. -/
theorem SpellsBounds.not_hasForeignDigit (h : SpellsBounds body n m) : ¬HasForeignDigit body := by
  rintro ⟨c, hc, hdigit, hforeign⟩
  obtain ⟨lower, upper, ⟨before, after, hblank, rfl⟩, hlower, hupper⟩ := h
  have hplus : c ≠ '+' := by
    rintro rfl
    exact absurd hdigit (by decide)
  have hminus : c ≠ '-' := by
    rintro rfl
    exact absurd hdigit (by decide)
  have hinteger : ∀ {cs n}, Denotes cs n → c ∉ cs := by
    intro cs n hdenotes hmem
    rcases hdenotes.mem hmem with h | h | h
    · exact hplus h
    · exact hminus h
    · exact absurd h (by simp [hforeign])
  have hblanks : c ∉ before ++ after := fun hmem =>
    absurd hdigit (by simp [isDecimalDigit_of_isBlank (hblank c hmem)])
  simp only [List.mem_append, List.mem_cons, not_or] at hc hblanks
  rcases hc with hc | hc | hc | hc | hc
  · exact hinteger hlower hc
  · exact hblanks.1 hc
  · exact hminus hc
  · exact hblanks.2 hc
  · exact hinteger hupper hc

/-- A text of the shape of bounds spells bounds, or it has a digit of another script. -/
theorem Shaped.spells_or_foreign (h : Shaped isDecimalDigit body) :
    (∃ n m, SpellsBounds body n m) ∨ HasForeignDigit body := by
  by_cases hforeign : HasForeignDigit body
  · exact .inr hforeign
  left
  obtain ⟨lower, upper, hjoined, hlower, hupper⟩ := h
  have hascii : ∀ c ∈ lower ++ upper, isDecimalDigit c = true → c.isDigit = true := by
    intro c hc hdigit
    by_contra hnot
    refine hforeign ⟨c, ?_, hdigit, by simpa using hnot⟩
    obtain ⟨before, after, _, rfl⟩ := hjoined
    simp only [List.mem_append, List.mem_cons] at hc ⊢
    tauto
  have hascii := List.forall_mem_append.mp hascii
  obtain ⟨n, hn⟩ := signedRun_isDigit_iff.mp (hlower.imp hascii.1)
  obtain ⟨m, hm⟩ := signedRun_isDigit_iff.mp (hupper.imp hascii.2)
  exact ⟨n, m, lower, upper, hjoined, hn, hm⟩

/-- A text that spells bounds has their shape. -/
theorem SpellsBounds.shaped (h : SpellsBounds body n m) : Shaped isDecimalDigit body := by
  obtain ⟨lower, upper, hjoined, hlower, hupper⟩ := h
  exact ⟨lower, upper, hjoined, hlower.signedRun, hupper.signedRun⟩

/-- A text has the shape of bounds without being read exactly if it spells bounds one of which does
not fit 64 bits, or has the shape with a digit of another script. -/
theorem shape_without_bounds_iff : hasBoundsShape body = true ∧ bounds? body = none ↔
    (∃ n m, SpellsBounds body n m ∧ (¬FitsWord n ∨ ¬FitsWord m)) ∨
      Shaped isDecimalDigit body ∧ HasForeignDigit body := by
  rw [hasBoundsShape_iff, Option.eq_none_iff_forall_ne_some, Prod.forall]
  simp only [ne_eq, bounds?_eq_some_iff]
  constructor
  · rintro ⟨hshaped, hunread⟩
    rcases hshaped.spells_or_foreign with ⟨n, m, hspells⟩ | hforeign
    · refine .inl ⟨n, m, hspells, ?_⟩
      rw [← not_and_or]
      exact fun hfits => hunread n m ⟨hspells, hfits⟩
    · exact .inr ⟨hshaped, hforeign⟩
  · rintro (⟨n, m, hspells, hunfit⟩ | ⟨hshaped, hforeign⟩)
    · refine ⟨hspells.shaped, ?_⟩
      rintro n' m' ⟨hspells', hfits⟩
      obtain ⟨rfl, rfl⟩ := hspells.unique hspells'
      exact (not_and_or.mpr hunfit) hfits
    · exact ⟨hshaped, fun n m h => h.1.not_hasForeignDigit hforeign⟩

end QueryGate.Text
