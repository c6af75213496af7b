import QueryGate.Gate.Basic
import QueryGate.Proofs.Declaration
import QueryGate.Proofs.Joining

/-!
# Canonical paths

A canonical path starts with `/`, each of its segments is a name, and it ends with `/` only if it is
the root. Cleaning makes every path canonical and leaves canonical paths as they are, and what
stands before a `/` may be cleaned first. A pattern without wildcards is kept in the canonical form
of its path, so that all spellings of one path share a scope.
-/

namespace QueryGate

open QueryGate.Text

namespace Path

/-! ## Segments -/

/-- A segment is a name: it is neither empty nor one of the two that stand for a place. -/
structure IsName (segment : List Char) : Prop where
  /-- The segment is not empty. -/
  nonempty : segment ≠ []
  /-- The segment does not stand for the place where it is met. -/
  not_here : segment ≠ ['.']
  /-- The segment does not stand for the place above. -/
  not_above : segment ≠ ['.', '.']

variable {kept segments : List (List Char)} {segment path : List Char}

/-- A name is kept. -/
theorem push_of_isName (h : IsName segment) (kept : List (List Char)) :
    push kept segment = segment :: kept := by
  unfold push
  rw [if_neg (not_or.mpr ⟨h.nonempty, h.not_here⟩), if_neg h.not_above]

/-- Names are kept, the latest first. -/
theorem foldl_push_of_isName (h : ∀ segment ∈ segments, IsName segment)
    (kept : List (List Char)) : segments.foldl push kept = segments.reverse ++ kept := by
  induction segments generalizing kept with
  | nil => rfl
  | cons first rest ih =>
    obtain ⟨hfirst, hrest⟩ := List.forall_mem_cons.mp h
    rw [List.foldl_cons, push_of_isName hfirst, ih hrest, List.reverse_cons, List.append_assoc]
    rfl

/-- What is kept after a segment was kept before, or is the segment and a name. -/
theorem mem_push {other : List Char} (h : other ∈ push kept segment) :
    other ∈ kept ∨ other = segment ∧ IsName segment := by
  unfold push at h
  split at h
  · exact .inl h
  · next hproper =>
    obtain ⟨hnonempty, hhere⟩ := not_or.mp hproper
    split at h
    · exact .inl (List.mem_of_mem_tail h)
    · next habove =>
      rcases List.mem_cons.mp h with rfl | hkept
      · exact .inr ⟨rfl, hnonempty, hhere, habove⟩
      · exact .inl hkept

/-- What is kept after some segments was kept before, or is one of the segments and a name. -/
theorem mem_foldl_push {other : List Char} (h : other ∈ segments.foldl push kept) :
    other ∈ kept ∨ other ∈ segments ∧ IsName other := by
  induction segments generalizing kept with
  | nil => exact .inl h
  | cons first rest ih =>
    rcases ih h with hpushed | ⟨hmem, hname⟩
    · rcases mem_push hpushed with hkept | ⟨rfl, hname⟩
      · exact .inl hkept
      · exact .inr ⟨List.mem_cons_self .., hname⟩
    · exact .inr ⟨List.mem_cons_of_mem first hmem, hname⟩

/-- A segment that remains after cleaning is a segment of the path and a name. -/
theorem mem_cleanSegments (h : segment ∈ cleanSegments path) :
    segment ∈ path.splitOn '/' ∧ IsName segment := by
  rcases mem_foldl_push (List.mem_reverse.mp h) with hnone | hmem
  · cases hnone
  · exact hmem

/-- No segment that remains after cleaning holds a `/`. -/
theorem slash_not_mem_of_mem_cleanSegments (h : segment ∈ cleanSegments path) : '/' ∉ segment :=
  not_mem_of_mem_splitOn (mem_cleanSegments h).1

/-- The segments that remain of a path with a `/` in it are those that remain when the segments
after the `/` are put behind those that remain of the part before it. -/
theorem cleanSegments_append (before after : List Char) :
    cleanSegments (before ++ '/' :: after) =
      ((after.splitOn '/').foldl push (cleanSegments before).reverse).reverse := by
  unfold cleanSegments
  rw [splitOn_append, List.foldl_append, List.reverse_reverse]

/-- Names that are joined behind a `/` remain. -/
theorem cleanSegments_joined (hname : ∀ segment ∈ segments, IsName segment)
    (hslash : ∀ segment ∈ segments, '/' ∉ segment) :
    cleanSegments ('/' :: ['/'].intercalate segments) = segments := by
  have hroot : cleanSegments [] = [] := rfl
  have hsplit := cleanSegments_append [] (['/'].intercalate segments)
  rw [List.nil_append, hroot] at hsplit
  rw [hsplit]
  by_cases hempty : segments = []
  · subst hempty
    rfl
  · rw [List.splitOn_intercalate _ hslash hempty, foldl_push_of_isName hname, List.reverse_nil,
      List.append_nil, List.reverse_reverse]

/-! ## Cleaning -/

/-- The segments of a cleaned path are those that remain of the path. -/
theorem cleanSegments_clean (path : List Char) : cleanSegments (clean path) = cleanSegments path :=
  cleanSegments_joined (fun _ h => (mem_cleanSegments h).2)
    fun _ h => slash_not_mem_of_mem_cleanSegments h

/-- A cleaned path stays as it is when it is cleaned again. -/
theorem clean_clean (path : List Char) : clean (clean path) = clean path := by
  unfold clean
  exact congrArg (fun segments => '/' :: ['/'].intercalate segments) (cleanSegments_clean path)

/-- What stands before a `/` may be cleaned first. -/
theorem clean_clean_append (before after : List Char) :
    clean (clean before ++ '/' :: after) = clean (before ++ '/' :: after) := by
  have hsegments : cleanSegments (clean before ++ '/' :: after) =
      cleanSegments (before ++ '/' :: after) := by
    rw [cleanSegments_append, cleanSegments_append, cleanSegments_clean]
  exact congrArg (fun segments => '/' :: ['/'].intercalate segments) hsegments

/-- Cleaning brings nothing into a path but `/`. -/
theorem mem_of_mem_clean {c : Char} (h : c ∈ clean path) : c = '/' ∨ c ∈ path := by
  rcases List.mem_cons.mp h with hroot | hrest
  · exact .inl hroot
  rcases mem_of_mem_intercalate hrest with hsep | ⟨segment, hsegment, hc⟩
  · exact .inl (List.mem_singleton.mp hsep)
  · exact .inr (mem_of_mem_splitOn (mem_cleanSegments hsegment).1 hc)

/-- A path is canonical: it starts with `/`, each of its segments is a name unless it is the root,
and it ends with `/` only if it is the root. -/
structure Canonical (path : List Char) : Prop where
  /-- The path starts with `/`. -/
  rooted : path.head? = some '/'
  /-- The segments behind this `/` are names, unless there are none. -/
  named : path = ['/'] ∨ ∀ segment ∈ path.tail.splitOn '/', IsName segment
  /-- The path ends with `/` only if it is the root. -/
  ending : path = ['/'] ∨ path.getLast? ≠ some '/'

/-- A path of names behind a `/` does not end with `/`. -/
theorem getLast?_ne_slash {rest : List Char}
    (h : ∀ segment ∈ rest.splitOn '/', IsName segment) : ('/' :: rest).getLast? ≠ some '/' := by
  intro hlast
  by_cases hrest : rest = []
  · subst hrest
    exact (h [] (by simp)).nonempty rfl
  · -- Behind a final `/` there is an empty segment.
    rw [List.getLast?_cons_of_ne_nil hrest] at hlast
    obtain ⟨before, rfl⟩ := List.getLast?_eq_some_iff.mp hlast
    have hempty : [] ∈ (before ++ ['/']).splitOn '/' := by
      rw [splitOn_append]
      simp
    exact (h [] hempty).nonempty rfl

/-- A cleaned path is canonical. -/
theorem canonical_clean (path : List Char) : Canonical (clean path) := by
  by_cases hroot : cleanSegments path = []
  · have hclean : clean path = ['/'] := by
      unfold clean
      rw [hroot]
      rfl
    rw [hclean]
    exact ⟨rfl, .inl rfl, .inl rfl⟩
  · have hsplit : (clean path).tail.splitOn '/' = cleanSegments path :=
      List.splitOn_intercalate _ (fun _ h => slash_not_mem_of_mem_cleanSegments h) hroot
    have hnames : ∀ segment ∈ (clean path).tail.splitOn '/', IsName segment := by
      rw [hsplit]
      exact fun _ h => (mem_cleanSegments h).2
    exact ⟨rfl, .inr hnames, .inr (getLast?_ne_slash hnames)⟩

/-- A canonical path stays as it is when it is cleaned. -/
theorem Canonical.clean_eq (h : Canonical path) : clean path = path := by
  obtain ⟨rest, rfl⟩ := List.head?_eq_some_iff.mp h.rooted
  rcases h.named with hroot | hnames
  · rw [hroot]
    rfl
  · have hremain := cleanSegments_joined hnames fun _ hmem => not_mem_of_mem_splitOn hmem
    rw [List.tail_cons, List.intercalate_splitOn] at hremain
    unfold clean
    rw [hremain, List.intercalate_splitOn]

/-- The canonical paths are those that cleaning leaves as they are. -/
theorem canonical_iff : Canonical path ↔ clean path = path :=
  ⟨Canonical.clean_eq, fun h => h ▸ canonical_clean path⟩

end Path

/-! ## Patterns -/

namespace Pattern

variable {pattern : List Char}

/-- A text without backslash has no escaped `?`. -/
theorem plainQuestionMarks_of_not_mem (h : '\\' ∉ pattern) :
    plainQuestionMarks pattern = pattern := by
  fun_induction plainQuestionMarks pattern with
  | case1 => rfl
  | case2 rest ih => exact absurd (List.mem_cons_self ..) h
  | case3 c rest hescape ih => rw [ih (mt (List.mem_cons_of_mem c) h)]

/-- A pattern is written without backslash and without blanks. -/
structure Unadorned (pattern : List Char) : Prop where
  /-- There is no backslash. -/
  escape_not_mem : '\\' ∉ pattern
  /-- There is no blank. -/
  not_isBlank : ∀ c ∈ pattern, isBlank c = false

instance (pattern : List Char) : Decidable (Unadorned pattern) :=
  decidable_of_iff ('\\' ∉ pattern ∧ pattern.all (!isBlank ·) = true) <| by
    rw [List.all_eq_true]
    simp only [Bool.not_eq_true']
    exact ⟨fun h => ⟨h.1, h.2⟩, fun h => ⟨h.escape_not_mem, h.not_isBlank⟩⟩

/-- A text with nothing in it but `/` and what stands in a pattern is as unadorned. -/
theorem Unadorned.of_mem {text : List Char} (h : Unadorned pattern)
    (hmem : ∀ c ∈ text, c = '/' ∨ c ∈ pattern) : Unadorned text := by
  constructor
  · intro hescape
    rcases hmem _ hescape with hslash | hpattern
    · cases hslash
    · exact h.escape_not_mem hpattern
  · intro c hc
    rcases hmem c hc with rfl | hpattern
    · rfl
    · exact h.not_isBlank c hpattern

/-- Neither trimming nor taking escapes away changes an unadorned pattern. -/
theorem Unadorned.plainQuestionMarks_trim (h : Unadorned pattern) :
    plainQuestionMarks (trim pattern) = pattern := by
  rw [(trimmed_of_forall h.not_isBlank).trim_eq, plainQuestionMarks_of_not_mem h.escape_not_mem]

/-- An unadorned pattern with a wildcard is kept as it is, with a `/` in front if it starts with
neither `/` nor `*`. -/
theorem Unadorned.normalize_of_wildcard (h : Unadorned pattern) (hwildcard : '*' ∈ pattern) :
    normalize pattern =
      if pattern.head? = some '/' ∨ pattern.head? = some '*' then pattern else '/' :: pattern := by
  unfold normalize
  dsimp only
  rw [h.plainQuestionMarks_trim, if_pos (List.contains_iff_mem.mpr hwildcard)]
  simp only [Bool.or_eq_true, beq_iff_eq]

/-- An unadorned pattern without wildcards is cleaned like a path. -/
theorem Unadorned.normalize_of_literal (h : Unadorned pattern) (hliteral : '*' ∉ pattern) :
    normalize pattern = Path.clean pattern := by
  unfold normalize
  dsimp only
  rw [h.plainQuestionMarks_trim, if_neg (mt List.contains_iff_mem.mp hliteral)]

/-- The form in which an unadorned pattern is kept stays as it is. -/
theorem Unadorned.normalize_normalize (h : Unadorned pattern) :
    normalize (normalize pattern) = normalize pattern := by
  by_cases hwildcard : '*' ∈ pattern
  · rw [h.normalize_of_wildcard hwildcard]
    split
    · next hrooted => rw [h.normalize_of_wildcard hwildcard, if_pos hrooted]
    · have hslash : Unadorned ('/' :: pattern) := h.of_mem fun c => List.mem_cons.mp
      rw [hslash.normalize_of_wildcard (List.mem_cons_of_mem _ hwildcard), if_pos (.inl rfl)]
  · have hclean : Unadorned (Path.clean pattern) := h.of_mem fun c => Path.mem_of_mem_clean
    have hliteral : '*' ∉ Path.clean pattern := by
      intro hstar
      rcases Path.mem_of_mem_clean hstar with hslash | hpattern
      · cases hslash
      · exact hwildcard hpattern
    rw [h.normalize_of_literal hwildcard, hclean.normalize_of_literal hliteral, Path.clean_clean]

end Pattern

/-! ## Scopes -/

/-- Rules that are declared for one pattern in two portions are declared for it in a row. -/
theorem Policy.declareScope_declareScope (policy : Policy) (pattern : String)
    (params more : List Rule) :
    (policy.declareScope pattern params).declareScope pattern more =
      policy.declareScope pattern (params ++ more) := by
  have hpattern : ∀ old, (Scope.overlay ⟨pattern, params⟩ old).pattern = pattern := fun _ => rfl
  have hboth : (fun old => Scope.overlay ⟨pattern, more⟩
      (some (Scope.overlay ⟨pattern, params⟩ old))) = Scope.overlay ⟨pattern, params ++ more⟩ := by
    funext old
    exact congrArg (Scope.mk pattern) List.foldl_append.symm
  unfold declareScope
  simp only [extendScope_eq_alter]
  rw [Keyed.alter_alter hpattern, hboth]

/-- Rules for an unadorned pattern without wildcards are declared for the cleaned path, unless the
pattern is empty, which is refused. -/
theorem Gate.addScope_of_literal {pattern : List Char} (h : Pattern.Unadorned pattern)
    (hliteral : '*' ∉ pattern) (gate : Gate) (params : List Rule) :
    gate.addScope (String.ofList pattern) params =
      if pattern = [] then (.error (.invalidRule .emptyPattern), gate)
      else gate.install
        (gate.declared.declareScope (String.ofList (Path.clean pattern)) params) := by
  unfold addScope
  rw [String.toList_ofList, (trimmed_of_forall h.not_isBlank).trim_eq,
    h.normalize_of_literal hliteral]
  simp only [List.isEmpty_iff]

/-- Cleaning is canonical. Every cleaned path is canonical, and the canonical paths are those that
cleaning leaves as they are, so cleaning a second time changes nothing. What stands before a `/` may
be cleaned first. The form in which a pattern without backslash and blanks is kept stays as it is
when it is read again, and without wildcards it is the cleaned pattern. So rules for two such
spellings of one cleaned path are declared in one scope, and a gate takes rules for a spelling that
is not empty into the scope of the cleaned path. -/
theorem cleaning_is_canonical :
    (∀ path, Path.Canonical (Path.clean path) ∧ Path.clean (Path.clean path) = Path.clean path) ∧
    (∀ path, Path.Canonical path ↔ Path.clean path = path) ∧
    (∀ before after, Path.clean (before ++ '/' :: after) =
      Path.clean (Path.clean before ++ '/' :: after)) ∧
    ∀ pattern, Pattern.Unadorned pattern →
      Pattern.normalize (Pattern.normalize pattern) = Pattern.normalize pattern ∧
      ('*' ∉ pattern →
        Pattern.normalize pattern = Path.clean pattern ∧
        (∀ (gate : Gate) (params : List Rule),
          gate.addScope (String.ofList pattern) params =
            if pattern = [] then (.error (.invalidRule .emptyPattern), gate)
            else gate.install
              (gate.declared.declareScope (String.ofList (Path.clean pattern)) params)) ∧
        ∀ other, Pattern.Unadorned other → '*' ∉ other → Path.clean other = Path.clean pattern →
          ∀ (policy : Policy) (params more : List Rule),
            (policy.declareScope (String.ofList (Pattern.normalize pattern)) params).declareScope
                (String.ofList (Pattern.normalize other)) more =
              policy.declareScope (String.ofList (Path.clean pattern)) (params ++ more)) := by
  refine ⟨?_, fun path => Path.canonical_iff, ?_, ?_⟩
  · exact fun path => ⟨Path.canonical_clean path, Path.clean_clean path⟩
  · exact fun before after => (Path.clean_clean_append before after).symm
  intro pattern hpattern
  refine ⟨hpattern.normalize_normalize, fun hliteral => ?_⟩
  have hkept := hpattern.normalize_of_literal hliteral
  refine ⟨hkept, Gate.addScope_of_literal hpattern hliteral, ?_⟩
  intro other hother hotherLiteral hsame policy params more
  rw [hkept, hother.normalize_of_literal hotherLiteral, hsame, Policy.declareScope_declareScope]

/-- A spelling that goes up past the root and one that repeats a `/` and ends with one share a
scope. -/
theorem cleaning_is_canonical_items :
    Pattern.Unadorned "shop//items/".toList ∧ '*' ∉ "shop//items/".toList ∧
      Pattern.Unadorned "/../shop/./items".toList ∧ '*' ∉ "/../shop/./items".toList ∧
      Path.clean "/../shop/./items".toList = Path.clean "shop//items/".toList ∧
      Pattern.normalize "shop//items/".toList = "/shop/items".toList ∧
      ∀ params more : List Rule,
        ((Policy.empty.declareScope (String.ofList (Pattern.normalize "shop//items/".toList))
            params).declareScope (String.ofList (Pattern.normalize "/../shop/./items".toList))
              more).scopes.length = 1 := by
  have hspelled : Pattern.Unadorned "shop//items/".toList := by decide +kernel
  have hother : Pattern.Unadorned "/../shop/./items".toList := by decide +kernel
  have hliteral : '*' ∉ "shop//items/".toList := by decide
  have hotherLiteral : '*' ∉ "/../shop/./items".toList := by decide
  have hsame : Path.clean "/../shop/./items".toList = Path.clean "shop//items/".toList := by
    decide +kernel
  have hclean : Path.clean "shop//items/".toList = "/shop/items".toList := by decide +kernel
  obtain ⟨hkept, _, hshared⟩ := (cleaning_is_canonical.2.2.2 _ hspelled).2 hliteral
  refine ⟨hspelled, hliteral, hother, hotherLiteral, hsame, hkept.trans hclean, ?_⟩
  intro params more
  rw [hshared _ hother hotherLiteral hsame Policy.empty params more]
  rfl

end QueryGate
