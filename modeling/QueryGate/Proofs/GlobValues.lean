import QueryGate.Proofs.GlobText
import QueryGate.Proofs.Trimming
import QueryGate.Plugin.Expression

/-!
# Values that fill a glob

The pattern plugin accepts the values that fill its glob without a line feed in place of a wildcard.
Among values without a line feed these are all that fill the glob. An inverted rule accepts the
others; so a text between two `*` does not keep it from accepting a value in which that text stands
with a line feed before or behind it.
-/

namespace QueryGate.Plugin

/-- The pattern plugin makes of a trimmed glob what it is compiled to. -/
theorem pattern_parse_append {glob : String} (hne : glob ≠ "") (htrimmed : Text.Trimmed glob.toList)
    (param : String) : pattern.parse param ("pattern:" ++ glob) =
      ExpressionSyntax.outcome (Glob.compile? true glob) := by
  have hafter : afterKeyword? "pattern:" ("pattern:" ++ glob) = some glob.toList := by
    rw [afterKeyword?_append, htrimmed.trim_eq]
  change globSyntax.parse ("pattern:" ++ glob) = _
  rw [ExpressionSyntax.parse, show globSyntax.keyword = "pattern:" from rfl, hafter]
  cases hglob : glob.toList with
  | nil => exact absurd (String.toList_eq_nil_iff.mp hglob) hne
  | cons c rest =>
    dsimp only
    rw [← hglob, String.ofList_toList]
    rfl

/-- The pattern plugin makes of a trimmed glob that is not too large the test by the compiled
glob. -/
theorem exists_pattern_parse {glob : String} (hne : glob ≠ "") (htrimmed : Text.Trimmed glob.toList)
    (hfits : Glob.Fits true glob) (param : String) :
    ∃ accepts, pattern.parse param ("pattern:" ++ glob) = .accepted accepts ∧
      ∀ value, accepts value = .ofBool ((Glob.compile? true glob).any (·.search value)) := by
  have hcompile := Glob.compile?_eq_some_iff.mpr ⟨hfits, rfl⟩
  refine ⟨fun value => .ofBool ((Glob.whole true glob.toList).regex.search value), ?_, fun value => ?_⟩
  · rw [pattern_parse_append hne htrimmed, hcompile]
    rfl
  · rw [hcompile]
    rfl

/-- The pattern plugin refuses a trimmed glob that is too large. -/
theorem pattern_parse_of_not_fits {glob : String} (hne : glob ≠ "")
    (htrimmed : Text.Trimmed glob.toList) (hlarge : ¬Glob.Fits true glob) (param : String) :
    pattern.parse param ("pattern:" ++ glob) = .malformed .expression := by
  have hcompile : Glob.compile? true glob = none := by
    rw [Option.eq_none_iff_forall_ne_some]
    exact fun r hr => hlarge (Glob.compile?_eq_some_iff.mp hr).1
  rw [pattern_parse_append hne htrimmed, hcompile]
  rfl

/-- The characters of a text between two `*`. -/
theorem toList_between (inner : String) :
    ("*" ++ inner ++ "*").toList = '*' :: inner.toList ++ ['*'] := by
  simp [String.toList_append]

/-- A text between two `*` is trimmed. -/
theorem trimmed_between (inner : String) : Text.Trimmed ("*" ++ inner ++ "*").toList := by
  rw [toList_between]
  constructor
  · rintro c ⟨⟩
    decide
  · intro c hc
    rw [List.getLast?_concat] at hc
    cases hc
    decide

/-- A text between two `*` is filled by the values that have it with no line feed before or behind
it. -/
theorem fillsWith_between_line_iff {inner value : String} (hrun : '*' ∉ inner.toList)
    (hsingle : '?' ∉ inner.toList) :
    Glob.FillsWith (· ≠ '\n') true ("*" ++ inner ++ "*").toList value.toList ↔
      ∃ before after : List Char, value.toList = before ++ inner.toList ++ after ∧
        '\n' ∉ before ∧ '\n' ∉ after := by
  rw [toList_between, Glob.fillsWith_between_iff hrun fun _ => hsingle]
  simp only [ne_eq, List.forall_mem_ne']

/-- An inverted rule with a predicate refuses what the predicate accepts. -/
theorem accepts_of_inverted {rule : Rule} {name source : String} {accepts : Predicate}
    (hconstraint : rule.constraint = .plugin name source accepts) (hinverted : rule.inverted = true)
    (callback : Option Callback) (value : String) :
    rule.accepts callback value = !(accepts value).isAccept := by
  unfold Rule.accepts Rule.meets
  rw [hconstraint, hinverted, Bool.bne_true]

/-- The pattern plugin makes of every trimmed glob, if it is neither empty nor too large, a predicate
that accepts the values that fill the glob without a line feed in place of a wildcard; among the
values without a line feed these are all that fill the glob. A glob that is too large is malformed.
An inverted rule with a text between two `*` refuses the values that have the text with no line feed
before or behind it, so without line feeds all that contain it. -/
theorem pattern_accepts_within_lines (param : String) :
    (∀ glob : String, glob ≠ "" → Text.Trimmed glob.toList →
      (¬Glob.Fits true glob →
        pattern.parse param ("pattern:" ++ glob) = .malformed .expression) ∧
      (Glob.Fits true glob →
        ∃ accepts, pattern.parse param ("pattern:" ++ glob) = .accepted accepts ∧
          ∀ value : String,
            (accepts value = .accept ↔
              Glob.FillsWith (· ≠ '\n') true glob.toList value.toList) ∧
            ('\n' ∉ value.toList →
              (accepts value = .accept ↔ Glob.Fills true glob.toList value.toList)))) ∧
    ∀ inner : String, '*' ∉ inner.toList → '?' ∉ inner.toList →
      Glob.Fits true ("*" ++ inner ++ "*") →
      ∃ accepts, pattern.parse param ("pattern:" ++ ("*" ++ inner ++ "*")) = .accepted accepts ∧
        ∀ (rule : Rule) (name source : String), rule.constraint = .plugin name source accepts →
          rule.inverted = true → ∀ (callback : Option Callback) (value : String),
          (rule.accepts callback value = false ↔
            ∃ before after : List Char, value.toList = before ++ inner.toList ++ after ∧
              '\n' ∉ before ∧ '\n' ∉ after) ∧
          ('\n' ∉ value.toList →
            (rule.accepts callback value = false ↔ inner.toList <:+: value.toList)) := by
  constructor
  · intro glob hne htrimmed
    refine ⟨fun hlarge => pattern_parse_of_not_fits hne htrimmed hlarge param, fun hfits => ?_⟩
    obtain ⟨accepts, hparse, haccepts⟩ := exists_pattern_parse hne htrimmed hfits param
    refine ⟨accepts, hparse, fun value => ?_⟩
    rw [haccepts, Verdict.ofBool_eq_accept_iff]
    exact ⟨Glob.search_compile?_iff_fillsWith hfits value, Glob.search_compile?_iff hfits⟩
  · intro inner hrun hsingle hfits
    have hne : "*" ++ inner ++ "*" ≠ "" := by simp
    obtain ⟨accepts, hparse, haccepts⟩ :=
      exists_pattern_parse hne (trimmed_between inner) hfits param
    refine ⟨accepts, hparse, ?_⟩
    intro rule name source hconstraint hinverted callback value
    rw [accepts_of_inverted hconstraint hinverted, haccepts, Bool.not_eq_false',
      Verdict.isAccept_ofBool, Glob.search_compile?_iff_fillsWith hfits]
    refine ⟨fillsWith_between_line_iff hrun hsingle, fun hline => ?_⟩
    have hwild : ∀ c ∈ value.toList, c ≠ '\n' := fun c hc hfeed => hline (hfeed ▸ hc)
    rw [Glob.fillsWith_iff_fills hwild, toList_between,
      Glob.fills_between_iff hrun fun _ => hsingle]

/-- A glob with both wildcards, and a text that an inverted rule keeps out. -/
theorem pattern_accepts_within_lines_evil :
    (∃ accepts, pattern.parse "q" ("pattern:" ++ "A?C*") = .accepted accepts ∧
      accepts "A.C" = .accept ∧ accepts "A\nC" ≠ .accept) ∧
    ∃ accepts, pattern.parse "q" ("pattern:" ++ ("*" ++ "evil" ++ "*")) = .accepted accepts ∧
      ({ name := "q", constraint := .plugin "pattern" "pattern:*evil*" accepts, inverted := true } :
        Rule).accepts none "so evil!" = false := by
  obtain ⟨hglobs, hinverted⟩ := pattern_accepts_within_lines "q"
  have hfits : Glob.Fits true "A?C*" := by decide +kernel
  have hfits' : Glob.Fits true ("*" ++ "evil" ++ "*") := by decide +kernel
  obtain ⟨accepts, hparse, haccepts⟩ := (hglobs "A?C*" (by decide) (by decide +kernel)).2 hfits
  obtain ⟨accepts', hparse', hrefuses⟩ := hinverted "evil" (by decide) (by decide) hfits'
  refine ⟨⟨accepts, hparse, ?_, ?_⟩, accepts', hparse', ?_⟩
  · exact ((haccepts "A.C").2 (by decide)).mpr (.literal (by decide) (by decide)
      (.single '.' rfl (.literal (by decide) (by decide) (.run [] .nothing))))
  · intro h
    cases (haccepts "A\nC").1.mp h with
    | literal _ _ others =>
      cases others with
      | single _ _ hwild => exact hwild rfl
  · exact ((hrefuses _ "pattern" _ rfl rfl none "so evil!").2 (by decide)).mpr
      ⟨"so ".toList, "!".toList, by decide⟩

/-- A value that contains a text behind a line feed fills the glob with the text between two `*`,
but the pattern plugin refuses it, and an inverted rule lets it pass. -/
theorem pattern_refuses_line_feed :
    ∃ accepts, pattern.parse "q" ("pattern:" ++ "*evil*") = .accepted accepts ∧
      Glob.Fills true "*evil*".toList "x\nevil".toList ∧ accepts "x\nevil" = .refuse ∧
      "evil".toList <:+: "x\nevil".toList ∧
      ({ name := "q", constraint := .plugin "pattern" "pattern:*evil*" accepts, inverted := true } :
        Rule).accepts none "x\nevil" = true := by
  have hcontains : "evil".toList <:+: "x\nevil".toList := ⟨"x\n".toList, [], by decide⟩
  have hfills : Glob.Fills true "*evil*".toList "x\nevil".toList :=
    (Glob.fills_between_iff (by decide) (by decide)).mpr hcontains
  have hfits : Glob.Fits true "*evil*" := by decide +kernel
  have htrimmed : Text.Trimmed "*evil*".toList := by decide +kernel
  obtain ⟨accepts, hparse, haccepts⟩ := exists_pattern_parse (by decide) htrimmed hfits "q"
  have hrefused : accepts "x\nevil" = .refuse := by
    rw [haccepts, Glob.compile?_eq_some_iff.mpr ⟨hfits, rfl⟩]
    decide +kernel
  refine ⟨accepts, hparse, hfills, hrefused, hcontains, ?_⟩
  rw [accepts_of_inverted rfl rfl, hrefused]
  rfl

end QueryGate.Plugin
