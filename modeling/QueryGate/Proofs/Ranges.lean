import QueryGate.Plugin.Range
import QueryGate.Proofs.BoundsExpression
import QueryGate.Proofs.Dispatch

/-!
# Ranges

A range can be asked for by its bounds alone, or by the keyword of the range plugin and its bounds.
Both read the same bounds, whatever their signs are and however large they may be, and both accept
the integers between them in all their spellings. A constraint is refused because of its bounds only
where it has their shape; every other text is left to the plugins.
-/

namespace QueryGate

open QueryGate.Text

/-! ## Accepted values -/

/-- A value is in a range of bounds that fit 64 bits exactly if it denotes an integer between them,
however large the integers are that it may denote. -/
theorem inRange_eq_true_iff {min max : Int} (hmin : FitsWord min) (hmax : FitsWord max)
    {value : String} :
    inRange min max value = true ↔ ∃ n, Denotes value.toList n ∧ min ≤ n ∧ n ≤ max := by
  unfold inRange
  rw [Option.any_eq_true]
  simp only [Bool.and_eq_true, decide_eq_true_iff, integer?_eq_some_iff]
  constructor
  · rintro ⟨n, ⟨hdenotes, -⟩, hbetween⟩
    exact ⟨n, hdenotes, hbetween⟩
  · rintro ⟨n, hdenotes, hbetween⟩
    exact ⟨n, ⟨hdenotes, Int.le_trans hmin.1 hbetween.1, Int.lt_of_le_of_lt hbetween.2 hmax.2⟩,
      hbetween⟩

/-- A value that denotes an integer is in a range exactly if the integer is. -/
theorem inRange_iff_of_denotes {min max n : Int} (hmin : FitsWord min) (hmax : FitsWord max)
    {value : String} (h : Denotes value.toList n) :
    inRange min max value = true ↔ min ≤ n ∧ n ≤ max := by
  rw [inRange_eq_true_iff hmin hmax]
  constructor
  · rintro ⟨m, hm, hbetween⟩
    rwa [h.unique hm]
  · exact fun hbetween => ⟨n, h, hbetween⟩

/-- A rule with a range that is not inverted accepts the values in the range. -/
theorem Rule.accepts_range (name : String) (min max : Int) (callback : Option Callback)
    (value : String) :
    ({ name, constraint := .range min max } : Rule).accepts callback value =
      inRange min max value :=
  Bool.bne_false _

/-! ## The range plugin -/

namespace Constraint

variable {plugins : List Plugin} {name : String} {body : List Char} {group : Nat} {min max : Int}

/-- A text becomes a range exactly if it has bounds in order, whatever plugins there are. -/
theorem parse_eq_range_iff : Constraint.parse plugins group name body = .ok (.range min max) ↔
    bounds? body = some (min, max) ∧ min ≤ max := by
  constructor
  · intro h
    cases parse_eq_ok_iff.mp h with
    | range hbounds hordered => exact ⟨hbounds, hordered⟩
    | plugin hforeign _ =>
      -- No plugin makes a range of a text, only a predicate.
      rcases leftToPlugins_of_foreign plugins group name hforeign with
        ⟨_, _, hdecides⟩ | ⟨_, hvalues⟩
      · rw [h] at hdecides
        cases hdecides
      · rw [h] at hvalues
        unfold ofValues at hvalues
        split at hvalues <;> cases hvalues
  · rintro ⟨hbounds, hordered⟩
    exact parse_eq_ok_iff.mpr (.range hbounds hordered)

end Constraint

namespace Plugin

/-- The range plugin accepts a trimmed text exactly if it has bounds in order, and what it then
makes of it accepts the integers between them. -/
theorem parseRange_eq_accepted_iff {body : List Char} (h : Trimmed body) {accepts : Predicate} :
    parseRange ("range:" ++ String.ofList body) = .accepted accepts ↔
      ∃ min max, bounds? body = some (min, max) ∧ min ≤ max ∧
        accepts = fun value => .ofBool (inRange min max value) := by
  unfold parseRange
  rw [afterKeyword?_append, String.toList_ofList, h.trim_eq]
  dsimp only
  constructor
  · intro hparse
    split at hparse
    · cases hparse
    next min max hbounds =>
    split at hparse
    · cases hparse
    next hordered =>
    cases hparse
    exact ⟨min, max, hbounds, Int.not_lt.mp hordered, rfl⟩
  · rintro ⟨min, max, hbounds, hordered, rfl⟩
    rw [hbounds]
    exact if_neg (Int.not_lt.mpr hordered)

end Plugin

namespace Constraint

/-- A trimmed text becomes a range exactly if the range plugin accepts it behind its keyword. -/
theorem exists_parse_eq_range_iff (plugins : List Plugin) (group : Nat) (name param : String)
    {body : List Char} (h : Trimmed body) :
    (∃ min max, Constraint.parse plugins group name body = .ok (.range min max)) ↔
      ∃ accepts, Plugin.range.parse param ("range:" ++ String.ofList body) = .accepted accepts := by
  change _ ↔ ∃ accepts, Plugin.parseRange _ = _
  simp only [parse_eq_range_iff, Plugin.parseRange_eq_accepted_iff h]
  constructor
  · rintro ⟨min, max, hbounds, hordered⟩
    exact ⟨_, min, max, hbounds, hordered, rfl⟩
  · rintro ⟨_, min, max, hbounds, hordered, _⟩
    exact ⟨min, max, hbounds, hordered⟩

/-- The predicate of the range plugin answers as a rule with the range does. -/
theorem eq_accepts_of_parse_eq_range {plugins : List Plugin} {group : Nat} {name param : String}
    {body : List Char} (h : Trimmed body) {min max : Int} {accepts : Predicate}
    (hparse : Constraint.parse plugins group name body = .ok (.range min max))
    (hplugin : Plugin.range.parse param ("range:" ++ String.ofList body) = .accepted accepts)
    (callback : Option Callback) (value : String) :
    accepts value =
      .ofBool (({ name, constraint := .range min max } : Rule).accepts callback value) := by
  obtain ⟨hbounds, _⟩ := parse_eq_range_iff.mp hparse
  obtain ⟨min', max', hbounds', _, rfl⟩ := (Plugin.parseRange_eq_accepted_iff h).mp hplugin
  cases hbounds.symm.trans hbounds'
  rw [Rule.accepts_range]

/-- A range in rule text and the range plugin agree, and bounds come through text unharmed. A
trimmed text becomes a range exactly if the range plugin accepts it behind its keyword. Then the
bounds fit 64 bits and are in order, and a rule with this range accepts the values that the plugin's
predicate accepts. Two integers of 64 bits that are in order, written in decimal and joined by `-`,
are read as just these bounds either way; a value that denotes an integer, however it is written and
however large it is, is accepted exactly if the integer is between them. -/
theorem range_agrees_with_plugin (plugins : List Plugin) (group : Nat) (name param : String) :
    (∀ body, Trimmed body →
      ((∃ min max, Constraint.parse plugins group name body = .ok (.range min max)) ↔
        ∃ accepts, Plugin.range.parse param ("range:" ++ String.ofList body) = .accepted accepts) ∧
      ∀ min max accepts, Constraint.parse plugins group name body = .ok (.range min max) →
        Plugin.range.parse param ("range:" ++ String.ofList body) = .accepted accepts →
        (FitsWord min ∧ FitsWord max ∧ min ≤ max) ∧ ∀ callback value, accepts value =
          .ofBool (({ name, constraint := .range min max } : Rule).accepts callback value)) ∧
      ∀ min max, FitsWord min → FitsWord max → min ≤ max →
        Constraint.parse plugins group name (toString min ++ "-" ++ toString max).toList =
          .ok (.range min max) ∧
        ∃ accepts, Plugin.range.parse param ("range:" ++ (toString min ++ "-" ++ toString max)) =
            .accepted accepts ∧
          ∀ callback value n, Denotes value.toList n →
            (({ name, constraint := .range min max } : Rule).accepts callback value = true ↔
              min ≤ n ∧ n ≤ max) ∧
            ((accepts value).isAccept = true ↔ min ≤ n ∧ n ≤ max) := by
  refine ⟨fun body htrimmed => ⟨?_, fun min max accepts hparse hplugin => ⟨?_, ?_⟩⟩,
    fun min max hmin hmax hordered => ?_⟩
  · exact exists_parse_eq_range_iff plugins group name param htrimmed
  · obtain ⟨hbounds, hordered⟩ := parse_eq_range_iff.mp hparse
    obtain ⟨_, hmin, hmax⟩ := bounds?_eq_some_iff.mp hbounds
    exact ⟨hmin, hmax, hordered⟩
  · exact eq_accepts_of_parse_eq_range htrimmed hparse hplugin
  have htext : (toString min ++ "-" ++ toString max).toList =
      numeral min ++ '-' :: numeral max := by
    rw [String.toList_append, String.toList_append, List.append_assoc]
    rfl
  have htrimmed : Trimmed (toString min ++ "-" ++ toString max).toList :=
    htext ▸ trimmed_of_forall fun _ => isBlank_of_mem_numerals
  have hbounds : bounds? (toString min ++ "-" ++ toString max).toList = some (min, max) :=
    bounds?_eq_some_iff.mpr ⟨htext ▸ spellsBounds_numerals min max, hmin, hmax⟩
  have hparse : Constraint.parse plugins group name (toString min ++ "-" ++ toString max).toList =
      .ok (.range min max) :=
    parse_eq_range_iff.mpr ⟨hbounds, hordered⟩
  obtain ⟨accepts, hplugin⟩ :=
    (exists_parse_eq_range_iff plugins group name param htrimmed).mp ⟨min, max, hparse⟩
  have haccepts := eq_accepts_of_parse_eq_range htrimmed hparse hplugin
  rw [String.ofList_toList] at hplugin
  refine ⟨hparse, accepts, hplugin, fun callback value n hdenotes => ?_⟩
  have hrange := inRange_iff_of_denotes hmin hmax hdenotes
  rw [haccepts callback value, Verdict.isAccept_ofBool, Rule.accepts_range]
  exact ⟨hrange, hrange⟩

/-- Of two negative bounds the first `-` is a sign, the second joins and the third is a sign again.
What is accepted is between them, also with leading zeros. -/
theorem range_agrees_with_plugin_negative :
    Constraint.parse [] 1 "t" "-5--1".toList = .ok (.range (-5) (-1)) ∧
      ({ name := "t", constraint := .range (-5) (-1) } : Rule).accepts none "-003" = true ∧
        ¬({ name := "t", constraint := .range (-5) (-1) } : Rule).accepts none
          "+99999999999999999999" = true := by
  have hread := (range_agrees_with_plugin [] 1 "t" "t").2 (-5) (-1) (by decide) (by decide)
    (by decide)
  obtain ⟨hparse, accepts, _, hvalues⟩ := hread
  have hsmall : Denotes "-003".toList (-3) := .minus ⟨by decide, List.all_eq_true.mp rfl⟩
  have hlarge : Denotes "+99999999999999999999".toList 99999999999999999999 :=
    .plus ⟨by decide, List.all_eq_true.mp rfl⟩
  refine ⟨hparse, (hvalues none _ _ hsmall).1.mpr (by decide), ?_⟩
  exact fun h => absurd ((hvalues none _ _ hlarge).1.mp h) (by decide)

end Constraint

/-! ## Refused bounds -/

namespace Constraint

variable {plugins : List Plugin} {name : String} {body : List Char} {group : Nat}

/-- The constraint of a parameter in this group is refused because of its bounds. -/
def RefusesBounds (group : Nat) (result : Except Error Constraint) : Prop :=
  ∃ fault, result = .error (.parse group fault) ∧ fault.kind = .invalidRange

/-- Bounds are the fault only where a text has the shape of bounds. -/
theorem not_refusesBounds_of_foreign (h : Foreign body) :
    ¬RefusesBounds group (Constraint.parse plugins group name body) := by
  rintro ⟨fault, hresult, hkind⟩
  rcases leftToPlugins_of_foreign plugins group name h with ⟨_, _, hdecides⟩ | ⟨_, hvalues⟩
  · rw [hresult] at hdecides
    cases hdecides
  · rw [hresult] at hvalues
    unfold ofValues at hvalues
    split at hvalues
    · cases hvalues
      cases hkind
    · cases hvalues

/-- A text of its own meaning apart, a constraint that is not refused because of its bounds is a
range, or a plugin decides it, or there are only values. -/
theorem cases_of_not_refusesBounds
    (hrefuses : ¬RefusesBounds group (Constraint.parse plugins group name body))
    (hkeyOnly : body ≠ []) (hany : body ≠ ['*']) (hcallback : body ≠ "callback".toList) :
    (∃ n m, SpellsBounds body n m ∧
        Constraint.parse plugins group name body = .ok (.range n m)) ∨
      LeftToPlugins plugins group name body := by
  by_cases hshape : hasBoundsShape body = true
  · left
    rw [parse_of_shape hshape] at hrefuses ⊢
    cases hbounds : bounds? body with
    | none =>
      rw [hbounds] at hrefuses
      exact absurd ⟨_, rfl, rfl⟩ hrefuses
    | some bounds =>
      obtain ⟨n, m⟩ := bounds
      rw [hbounds] at hrefuses
      dsimp only at hrefuses ⊢
      split at hrefuses
      · exact absurd ⟨_, rfl, rfl⟩ hrefuses
      next hordered => exact ⟨n, m, (bounds?_eq_some_iff.mp hbounds).1, if_neg hordered⟩
  · have hforeign : Foreign body := ⟨hkeyOnly, hany, hcallback, by simpa using hshape⟩
    exact .inr (leftToPlugins_of_foreign plugins group name hforeign)

/-- A text is refused because of its bounds exactly if they do not fit 64 bits, are out of order or
have a digit of another script. -/
theorem refusesBounds_parse_iff : RefusesBounds group (Constraint.parse plugins group name body) ↔
    (∃ n m, SpellsBounds body n m ∧ (¬FitsWord n ∨ ¬FitsWord m ∨ m < n)) ∨
      Shaped isDecimalDigit body ∧ HasForeignDigit body := by
  by_cases hshape : hasBoundsShape body = true
  · rw [parse_of_shape hshape]
    cases hbounds : bounds? body with
    | none =>
      refine iff_of_true ⟨_, rfl, rfl⟩ ?_
      refine (shape_without_bounds_iff.mp ⟨hshape, hbounds⟩).imp_left ?_
      rintro ⟨n, m, hspells, hunfit⟩
      exact ⟨n, m, hspells, hunfit.imp_right .inl⟩
    | some bounds =>
      obtain ⟨n, m⟩ := bounds
      obtain ⟨hspells, hfits, hfits'⟩ := bounds?_eq_some_iff.mp hbounds
      have hreversed : RefusesBounds group
          (if m < n then .error (.parse group (.boundsReversed name n m)) else .ok (.range n m)) ↔
            m < n := by
        split
        next h => exact iff_of_true ⟨_, rfl, rfl⟩ h
        next h => exact iff_of_false (by rintro ⟨_, ⟨⟩, _⟩) h
      refine hreversed.trans ⟨fun h => .inl ⟨n, m, hspells, .inr (.inr h)⟩, ?_⟩
      rintro (⟨n', m', hspells', hunfit⟩ | ⟨_, hforeign⟩)
      · obtain ⟨rfl, rfl⟩ := hspells.unique hspells'
        tauto
      · exact absurd hforeign hspells.not_hasForeignDigit
  · have hunshaped : ¬Shaped isDecimalDigit body := mt hasBoundsShape_iff.mpr hshape
    refine iff_of_false ?_ ?_
    · by_cases hforeign : Foreign body
      · exact not_refusesBounds_of_foreign hforeign
      -- What is left are the texts with a meaning of their own.
      rintro ⟨fault, hresult, _⟩
      refine hforeign ⟨?_, ?_, ?_, by simpa using hshape⟩
      all_goals
        rintro rfl
        cases hresult
    · rintro (⟨n, m, hspells, _⟩ | ⟨hshaped, _⟩)
      · exact hunshaped hspells.shaped
      · exact hunshaped hshaped

/-- What the shape of bounds is and what becomes of it. The texts that have the shape are those that
the expression for bounds finds. A text has the shape without being read exactly if it is two ASCII
integers, joined, one of which does not fit 64 bits, or if it has the shape with a digit of another
script. A constraint is refused because of its bounds for these two reasons, or because the bounds
are out of order, and for no other; every other text that has no meaning of its own becomes a range
or is left to the plugins, and to a list of values where no plugin has something to say. -/
theorem bounds_refused_iff (plugins : List Plugin) (group : Nat) (name : String)
    (body : List Char) :
    (∃ r, Regex.parse? Regex.boundsExpression.toList = some r ∧
      r.search (String.ofList body) = hasBoundsShape body) ∧
    (hasBoundsShape body = true ∧ bounds? body = none ↔
      (∃ n m, SpellsBounds body n m ∧ (¬FitsWord n ∨ ¬FitsWord m)) ∨
        Shaped isDecimalDigit body ∧ HasForeignDigit body) ∧
    (RefusesBounds group (Constraint.parse plugins group name body) ↔
      (∃ n m, SpellsBounds body n m ∧ (¬FitsWord n ∨ ¬FitsWord m ∨ m < n)) ∨
        Shaped isDecimalDigit body ∧ HasForeignDigit body) ∧
    (¬RefusesBounds group (Constraint.parse plugins group name body) →
      body ≠ [] → body ≠ ['*'] → body ≠ "callback".toList →
      (∃ n m, SpellsBounds body n m ∧
          Constraint.parse plugins group name body = .ok (.range n m)) ∨
        LeftToPlugins plugins group name body) := by
  refine ⟨?_, shape_without_bounds_iff, refusesBounds_parse_iff, cases_of_not_refusesBounds⟩
  have h := Regex.search_boundsExpression (String.ofList body)
  rwa [String.toList_ofList] at h

/-- Two Arabic digits, one and two, joined by `-`, are bounds in order that fit. They have the shape
of bounds all the same and are refused as out of range, though they are no ASCII integers and no
plugin is asked. -/
theorem bounds_refused_arabic_digits :
    hasBoundsShape "\u0661-\u0662".toList = true ∧ bounds? "\u0661-\u0662".toList = none ∧
      (¬∃ n m, SpellsBounds "\u0661-\u0662".toList n m) ∧
      Constraint.parse Plugin.builtin 1 "x" "\u0661-\u0662".toList =
        .error (.parse 1 (.boundsOutOfRange "\u0661-\u0662")) := by
  refine ⟨by decide, by decide, ?_, rfl⟩
  rintro ⟨n, m, hspells⟩
  exact hspells.not_hasForeignDigit ⟨'\u0661', by decide, by decide, by decide⟩

end Constraint

end QueryGate
