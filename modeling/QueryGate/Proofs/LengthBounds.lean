import QueryGate.Plugin.Length
import QueryGate.Proofs.Numeral

/-!
# Bounds on lengths

Two bounds on the length of a value stand on either side of `..`. No bound has a dot in it, so that
only one cut between two bounds can be read, although a text is cut at its first two dots. A value
is accepted by both bounds together exactly if it is accepted by either of them alone, and a single
length stands for itself on both sides.
-/

namespace QueryGate

namespace Text

/-- Text is cut at the first two dots. If these are others than two given ones, what is behind them
has a dot in it. -/
theorem cutAtText?_dots (before after : List Char) :
    ∃ lower upper, cutAtText? ['.', '.'] (before ++ '.' :: '.' :: after) = some (lower, upper) ∧
      ((lower = before ∧ upper = after) ∨ '.' ∈ upper) := by
  induction before with
  | nil => exact ⟨[], after, rfl, .inl ⟨rfl, rfl⟩⟩
  | cons c before ih =>
    rw [List.cons_append, cutAtText?]
    split
    · next rest hhere =>
      -- The cut is one place too early, so the last of the given dots is behind it.
      refine ⟨[], rest, rfl, .inr ?_⟩
      have htext : c :: (before ++ '.' :: '.' :: after) = '.' :: '.' :: rest :=
        isPrefixOf?_eq_some_iff.mp hhere
      cases before with
      | nil =>
        cases htext
        exact List.mem_cons_self ..
      | cons d before =>
        cases htext
        exact List.mem_append_right before (List.mem_cons_self ..)
    · obtain ⟨lower, upper, hcut, hplace⟩ := ih
      refine ⟨c :: lower, upper, by rw [hcut]; rfl, ?_⟩
      rcases hplace with ⟨rfl, rfl⟩ | hdot
      · exact .inl ⟨rfl, rfl⟩
      · exact .inr hdot

/-- Text without a dot is passed over by the search for two of them. -/
theorem cutAtText?_append_of_not_mem {before : List Char} (h : '.' ∉ before) (cs : List Char) :
    cutAtText? ['.', '.'] (before ++ cs) =
      (cutAtText? ['.', '.'] cs).map fun (lower, upper) => (before ++ lower, upper) := by
  induction before with
  | nil => exact (congrFun Option.map_id _).symm
  | cons c before ih =>
    rw [List.mem_cons, not_or] at h
    have hhere : ['.', '.'].isPrefixOf? (c :: (before ++ cs)) = none :=
      if_neg (by simpa using h.1)
    rw [List.cons_append, cutAtText?, hhere, ih h.2]
    exact Option.map_map ..

end Text

namespace Plugin

open Text

/-! ## Reading bounds -/

section Bounds

variable {default n min max : Nat} {part lower upper : List Char}

/-- A bound that is read fits 64 bits, if the one does that stands for no bound. -/
theorem lengthBound?_le (h : lengthBound? default part = some n) (hdefault : default ≤ wordMax) :
    n ≤ wordMax := by
  unfold lengthBound? at h
  split at h
  · cases h
    exact hdefault
  · exact (natural?_eq_some_iff.mp h).2

/-- No bound has a dot in it. -/
theorem dot_not_mem (h : lengthBound? default part = some n) : '.' ∉ part := by
  intro hdot
  have hdot := mem_trim (by decide) hdot
  unfold lengthBound? at h
  rw [if_neg (by simpa using List.ne_nil_of_mem hdot)] at h
  obtain ⟨⟨digits, htext, hrun, _⟩, _⟩ := natural?_eq_some_iff.mp h
  have hdigits : '.' ∉ digits := fun hmem => absurd (hrun.2 _ hmem) (by decide)
  rcases htext with htext | htext
  · exact hdigits (htext ▸ hdot)
  · rw [htext, List.mem_cons] at hdot
    exact hdot.elim (by decide) hdigits

/-- Blanks around a bound do not count. -/
theorem lengthBound?_congr {other : List Char} (h : trim part = trim other) (default : Nat) :
    lengthBound? default part = lengthBound? default other := by
  unfold lengthBound?
  rw [h]

/-- Bounds are read from a text with two dots exactly if they are read from what stands on either
side, wherever else in the text there are dots. -/
theorem lengthBounds?_dots : lengthBounds? (trim (lower ++ '.' :: '.' :: upper)) = some (min, max) ↔
    lengthBound? 0 lower = some min ∧ lengthBound? wordMax upper = some max := by
  have hdots : Trimmed ['.', '.'] := by decide
  have htrim : trim (lower ++ '.' :: '.' :: upper) =
      trimStart lower ++ '.' :: '.' :: trimEnd upper :=
    trim_append_append hdots (List.cons_ne_nil '.' ['.']) lower upper
  have hlower := lengthBound?_congr (trim_trimStart lower) 0
  have hupper := lengthBound?_congr (trim_trimEnd upper) wordMax
  rw [htrim, ← hlower, ← hupper]
  unfold lengthBounds?
  constructor
  · intro h
    obtain ⟨before, after, hcut, hplace⟩ := cutAtText?_dots (trimStart lower) (trimEnd upper)
    rw [hcut] at h
    obtain ⟨min', hmin, h⟩ := Option.bind_eq_some_iff.mp h
    obtain ⟨max', hmax, h⟩ := Option.bind_eq_some_iff.mp h
    cases h
    rcases hplace with ⟨rfl, rfl⟩ | hdot
    · exact ⟨hmin, hmax⟩
    · exact absurd hdot (dot_not_mem hmax)
  · rintro ⟨hmin, hmax⟩
    have hcut : cutAtText? ['.', '.'] (trimStart lower ++ '.' :: '.' :: trimEnd upper) =
        some (trimStart lower, trimEnd upper) := by
      rw [cutAtText?_append_of_not_mem (dot_not_mem hmin)]
      exact congrArg some (Prod.ext (List.append_nil _) rfl)
    rw [hcut]
    dsimp only
    rw [hmin, hmax]
    rfl

/-- A single length is both bounds. -/
theorem lengthBounds?_of_natural? {text : List Char} (h : natural? (trim text) = some n) :
    lengthBounds? (trim text) = some (n, n) ∧ lengthBound? 0 text = some n ∧
      lengthBound? wordMax text = some n := by
  obtain ⟨⟨digits, htext, hrun, _⟩, _⟩ := natural?_eq_some_iff.mp h
  have hne : ¬(trim text).isEmpty = true := by
    rcases htext with htext | htext
    · simpa [htext] using hrun.1
    · simp [htext]
  have hbound : ∀ default, lengthBound? default text = some n := by
    intro default
    unfold lengthBound?
    rw [if_neg hne, h]
  refine ⟨?_, hbound 0, hbound wordMax⟩
  have htrimmed : lengthBound? 0 (trim text) = some n := by
    unfold lengthBound?
    rw [(trimmed_trim text).trim_eq, if_neg hne, h]
  have hdot : '.' ∉ trim text := dot_not_mem htrimmed
  have hcut : cutAtText? ['.', '.'] (trim text) = none := by
    have hpassed := cutAtText?_append_of_not_mem hdot []
    rwa [List.append_nil] at hpassed
  unfold lengthBounds?
  rw [hcut]
  dsimp only
  rw [(trimmed_trim text).trim_eq, h]
  rfl

end Bounds

/-! ## Accepted constraints -/

/-- Accepts the values whose number of characters lies between two bounds. -/
def lengthWithin (min max : Nat) : Predicate :=
  fun value => .ofBool (decide (min ≤ value.length) && decide (value.length ≤ max))

/-- The text between two constraints on a length, of which one gives the lower bound and the other
the upper one. -/
theorem toList_bounds (lower upper : String) :
    (lower ++ ".." ++ upper).toList = lower.toList ++ '.' :: '.' :: upper.toList := by
  rw [String.toList_append, String.toList_append, List.append_assoc]
  rfl

variable {param text lower upper : String} {min max : Nat} {accepts : Predicate}

/-- What is made of the text behind the keyword: bounds in order are accepted, and everything else
is malformed. -/
theorem length_parse (param text : String) : length.parse param ("len:" ++ text) =
    match lengthBounds? (trim text.toList) with
    | none => complain ("invalid length bounds: " ++ String.ofList (trim text.toList))
    | some (min, max) =>
      if max < min then
        complain ("invalid length range: " ++ toString min ++ " > " ++ toString max)
      else .accepted (lengthWithin min max) := by
  change parseLength ("len:" ++ text) = _
  unfold parseLength
  rw [afterKeyword?_append]
  rfl

/-- A text is accepted exactly if bounds in order are read from it. -/
theorem length_parse_eq_accepted_iff : length.parse param ("len:" ++ text) = .accepted accepts ↔
    ∃ min max, lengthBounds? (trim text.toList) = some (min, max) ∧ min ≤ max ∧
      accepts = lengthWithin min max := by
  rw [length_parse]
  constructor
  · intro h
    split at h
    · cases h
    next min max hbounds =>
    split at h
    · cases h
    next hordered =>
    cases h
    exact ⟨min, max, hbounds, Nat.le_of_not_lt hordered, rfl⟩
  · rintro ⟨min, max, hbounds, hordered, rfl⟩
    rw [hbounds]
    exact if_neg (Nat.not_lt.mpr hordered)

/-- A constraint that is accepted starts with the keyword. -/
theorem exists_of_length_parse_eq_accepted {constraint : String}
    (h : length.parse param constraint = .accepted accepts) :
    ∃ text, constraint = "len:" ++ text := by
  change parseLength constraint = _ at h
  unfold parseLength at h
  split at h
  · cases h
  next body hbody =>
  obtain ⟨rest, hrest, _⟩ := Option.map_eq_some_iff.mp hbody
  refine ⟨String.ofList rest, ?_⟩
  rw [← String.toList_inj, String.toList_append]
  exact (isPrefixOf?_eq_some_iff.mp hrest).trans
    (congrArg ("len:".toList ++ ·) String.toList_ofList.symm)

/-- Two bounds are accepted exactly if both are read and in order. -/
theorem length_parse_between_iff :
    length.parse param ("len:" ++ (lower ++ ".." ++ upper)) = .accepted accepts ↔
      ∃ min max, lengthBound? 0 lower.toList = some min ∧
        lengthBound? wordMax upper.toList = some max ∧ min ≤ max ∧
        accepts = lengthWithin min max := by
  rw [length_parse_eq_accepted_iff, toList_bounds]
  simp only [lengthBounds?_dots, and_assoc]

/-- A lower bound alone is accepted exactly if it is read. -/
theorem length_parse_lower_iff :
    length.parse param ("len:" ++ (lower ++ "..")) = .accepted accepts ↔
      ∃ min, lengthBound? 0 lower.toList = some min ∧ accepts = lengthWithin min wordMax := by
  have hempty : lower ++ ".." = lower ++ ".." ++ "" := String.append_empty.symm
  rw [hempty, length_parse_between_iff]
  constructor
  · rintro ⟨min, max, hmin, hmax, _, rfl⟩
    cases hmax
    exact ⟨min, hmin, rfl⟩
  · rintro ⟨min, hmin, rfl⟩
    exact ⟨min, wordMax, hmin, rfl, lengthBound?_le hmin (Nat.zero_le _), rfl⟩

/-- An upper bound alone is accepted exactly if it is read. -/
theorem length_parse_upper_iff :
    length.parse param ("len:" ++ (".." ++ upper)) = .accepted accepts ↔
      ∃ max, lengthBound? wordMax upper.toList = some max ∧ accepts = lengthWithin 0 max := by
  have hempty : ".." ++ upper = "" ++ ".." ++ upper := by rw [String.empty_append]
  rw [hempty, length_parse_between_iff]
  constructor
  · rintro ⟨min, max, hmin, hmax, _, rfl⟩
    cases hmin
    exact ⟨max, hmax, rfl⟩
  · rintro ⟨max, hmax, rfl⟩
    exact ⟨0, max, rfl, hmax, Nat.zero_le max, rfl⟩

/-- A length that lies between two bounds is one that lies within either of them. -/
theorem lengthWithin_eq (min : Nat) (hmax : max ≤ wordMax) (value : String) :
    lengthWithin min max value = .ofBool
      ((lengthWithin min wordMax value).isAccept && (lengthWithin 0 max value).isAccept) := by
  unfold lengthWithin
  rw [Verdict.isAccept_ofBool, Verdict.isAccept_ofBool]
  congr 1
  rw [Bool.eq_iff_iff]
  simp only [Bool.and_eq_true, decide_eq_true_iff]
  omega

/-- Constraints on lengths compose. If two bounds are accepted, each of them is accepted alone, and
together they accept the values that both accept. If each of two bounds is accepted alone, as the
predicate of that bound, both together are accepted when they are in order; otherwise they are
malformed, and no value is accepted by both. A single length accepts what it accepts as both bounds.
What a predicate answers depends on the number of characters of the value only. No text behind the
keyword is left to other plugins: it is accepted or malformed. -/
theorem length_constraints_compose (param : String) :
    (∀ lower upper accepts,
      length.parse param ("len:" ++ (lower ++ ".." ++ upper)) = .accepted accepts →
        ∃ atLeast atMost, length.parse param ("len:" ++ (lower ++ "..")) = .accepted atLeast ∧
          length.parse param ("len:" ++ (".." ++ upper)) = .accepted atMost ∧
          ∀ value, accepts value = .ofBool ((atLeast value).isAccept && (atMost value).isAccept)) ∧
    (∀ lower upper atLeast atMost,
      length.parse param ("len:" ++ (lower ++ "..")) = .accepted atLeast →
      length.parse param ("len:" ++ (".." ++ upper)) = .accepted atMost →
        ∃ min max, lengthBound? 0 lower.toList = some min ∧
          lengthBound? wordMax upper.toList = some max ∧
          atLeast = lengthWithin min wordMax ∧ atMost = lengthWithin 0 max ∧
          (min ≤ max → ∃ accepts,
            length.parse param ("len:" ++ (lower ++ ".." ++ upper)) = .accepted accepts) ∧
          (max < min →
            (∃ complaint,
              length.parse param ("len:" ++ (lower ++ ".." ++ upper)) = .malformed complaint) ∧
            ∀ value, ¬(atLeast value = .accept ∧ atMost value = .accept))) ∧
    (∀ text n, natural? (trim text.toList) = some n →
      ∃ accepts, length.parse param ("len:" ++ text) = .accepted accepts ∧
        length.parse param ("len:" ++ (text ++ ".." ++ text)) = .accepted accepts) ∧
    (∀ constraint accepts, length.parse param constraint = .accepted accepts →
      ∀ value other : String, value.length = other.length → accepts value = accepts other) ∧
    ∀ text, (∃ accepts, length.parse param ("len:" ++ text) = .accepted accepts) ∨
      ∃ complaint, length.parse param ("len:" ++ text) = .malformed complaint := by
  refine ⟨?_, ?_, ?_, ?_, ?_⟩
  · intro lower upper accepts h
    obtain ⟨min, max, hmin, hmax, _, rfl⟩ := length_parse_between_iff.mp h
    exact ⟨_, _, length_parse_lower_iff.mpr ⟨min, hmin, rfl⟩,
      length_parse_upper_iff.mpr ⟨max, hmax, rfl⟩,
      lengthWithin_eq min (lengthBound?_le hmax (Nat.le_refl _))⟩
  · intro lower upper atLeast atMost hlower hupper
    obtain ⟨min, hmin, rfl⟩ := length_parse_lower_iff.mp hlower
    obtain ⟨max, hmax, rfl⟩ := length_parse_upper_iff.mp hupper
    refine ⟨min, max, hmin, hmax, rfl, rfl, fun hordered => ?_, fun hreversed => ⟨?_, ?_⟩⟩
    · exact ⟨_, length_parse_between_iff.mpr ⟨min, max, hmin, hmax, hordered, rfl⟩⟩
    · rw [length_parse, toList_bounds, lengthBounds?_dots.mpr ⟨hmin, hmax⟩]
      exact ⟨_, if_pos hreversed⟩
    · rintro value ⟨hatLeast, hatMost⟩
      unfold lengthWithin at hatLeast hatMost
      rw [Verdict.ofBool_eq_accept_iff, Bool.and_eq_true, decide_eq_true_iff,
        decide_eq_true_iff] at hatLeast hatMost
      omega
  · intro text n hnatural
    obtain ⟨hexact, hmin, hmax⟩ := lengthBounds?_of_natural? hnatural
    exact ⟨lengthWithin n n,
      length_parse_eq_accepted_iff.mpr ⟨n, n, hexact, Nat.le_refl n, rfl⟩,
      length_parse_between_iff.mpr ⟨n, n, hmin, hmax, Nat.le_refl n, rfl⟩⟩
  · intro constraint accepts h value other hsame
    obtain ⟨text, rfl⟩ := exists_of_length_parse_eq_accepted h
    obtain ⟨min, max, _, _, rfl⟩ := length_parse_eq_accepted_iff.mp h
    unfold lengthWithin
    rw [hsame]
  · intro text
    rw [length_parse]
    split
    · exact .inr ⟨_, rfl⟩
    · split
      · exact .inr ⟨_, rfl⟩
      · exact .inl ⟨_, rfl⟩

/-- Between two and five characters, with blanks around the bounds; at least three characters and
at most two; four characters. -/
theorem length_constraints_compose_blanks :
    (∃ accepts, length.parse "q" ("len:" ++ (" 2 " ++ ".." ++ "5 ")) = .accepted accepts ∧
      accepts "äöü" = accepts "abc" ∧
      ∃ atLeast atMost, length.parse "q" ("len:" ++ (" 2 " ++ "..")) = .accepted atLeast ∧
        length.parse "q" ("len:" ++ (".." ++ "5 ")) = .accepted atMost ∧
        ∀ value, accepts value = .ofBool ((atLeast value).isAccept && (atMost value).isAccept)) ∧
    (∃ complaint, length.parse "q" ("len:" ++ ("3" ++ ".." ++ "2")) = .malformed complaint) ∧
    natural? (trim " +4".toList) = some 4 ∧
    ∃ accepts, length.parse "q" ("len:" ++ " +4") = .accepted accepts ∧
      length.parse "q" ("len:" ++ (" +4" ++ ".." ++ " +4")) = .accepted accepts := by
  obtain ⟨hhalves, hwhole, hsingle, hcharacters, _⟩ := length_constraints_compose "q"
  have hbetween : length.parse "q" ("len:" ++ (" 2 " ++ ".." ++ "5 ")) =
      .accepted (lengthWithin 2 5) :=
    length_parse_between_iff.mpr ⟨2, 5, by decide +kernel, by decide +kernel, by decide, rfl⟩
  have hlower : length.parse "q" ("len:" ++ ("3" ++ "..")) = .accepted (lengthWithin 3 wordMax) :=
    length_parse_lower_iff.mpr ⟨3, by decide +kernel, rfl⟩
  have hupper : length.parse "q" ("len:" ++ (".." ++ "2")) = .accepted (lengthWithin 0 2) :=
    length_parse_upper_iff.mpr ⟨2, by decide +kernel, rfl⟩
  have hfour : natural? (trim " +4".toList) = some 4 := by decide +kernel
  refine ⟨⟨_, hbetween, ?_, hhalves _ _ _ hbetween⟩, ?_, hfour, hsingle _ _ hfour⟩
  · exact hcharacters _ _ hbetween _ _ (by decide)
  · obtain ⟨min, max, hmin, hmax, _, _, _, hreversed⟩ := hwhole _ _ _ _ hlower hupper
    cases hmin.symm.trans (by decide +kernel : lengthBound? 0 "3".toList = some 3)
    cases hmax.symm.trans (by decide +kernel : lengthBound? wordMax "2".toList = some 2)
    exact (hreversed (by decide)).1

end Plugin

end QueryGate
