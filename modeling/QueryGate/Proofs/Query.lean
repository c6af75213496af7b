import Mathlib.Data.List.TakeWhile
import QueryGate.Proofs.Joining
import QueryGate.Query.Segment
import QueryGate.Query.Url
import QueryGate.ScratchPool

/-!
# Putting queries and URLs together again

The segments of a query, joined by `&`, have the same segments again, and joining some of them takes
only characters away. A URL is the text of the parts that it is taken apart into, and parts that are
put together are found again.
-/

namespace QueryGate

/-! ## Text without some of its characters -/

namespace Text

/-- The bytes of a text are those of its characters. -/
theorem byteLength_toList (s : String) : byteLength s.toList = s.utf8ByteSize := by
  have hlist : ∀ cs : List Char, byteLength cs = (String.ofList cs).utf8ByteSize := by
    intro cs
    induction cs with
    | nil => rfl
    | cons c cs ih =>
      have hcons : String.ofList (c :: cs) = String.singleton c ++ String.ofList cs := by
        rw [← String.toList_inj]
        simp
      rw [hcons, String.utf8ByteSize_append, String.utf8ByteSize_singleton, ← ih]
      rfl
  rw [hlist, String.ofList_toList]

/-- The bytes of two texts in a row are those of either. -/
theorem byteLength_append (cs ds : List Char) :
    byteLength (cs ++ ds) = byteLength cs + byteLength ds := by
  unfold byteLength
  induction cs with
  | nil => simp
  | cons c cs ih => simp [ih, Nat.add_assoc]

/-- Taking characters away makes a text no longer. -/
theorem byteLength_le_of_sublist {part all : List Char} (h : part.Sublist all) :
    byteLength part ≤ byteLength all := by
  induction h with
  | slnil => exact Nat.le_refl 0
  | cons c h ih => exact Nat.le_trans ih (Nat.le_add_left _ c.utf8Size)
  | cons_cons c h ih => exact Nat.add_le_add_left ih c.utf8Size

/-- Taking characters away makes a string no longer. -/
theorem utf8ByteSize_le_of_sublist {part all : String} (h : part.toList.Sublist all.toList) :
    part.utf8ByteSize ≤ all.utf8ByteSize := by
  rw [← byteLength_toList, ← byteLength_toList]
  exact byteLength_le_of_sublist h

section Cut

variable {α : Type} [BEq α] [LawfulBEq α] {sep : α}

/-- What does not hold the separator is taken as a whole. -/
theorem bne_of_not_mem {xs : List α} (h : sep ∉ xs) : ∀ x ∈ xs, (x != sep) = true := by
  intro x hx
  rw [bne_iff_ne]
  rintro rfl
  exact h hx

/-- A text is taken up to a separator that does not occur before. -/
theorem takeWhile_append_cons {before : List α} (h : sep ∉ before) (after : List α) :
    (before ++ sep :: after).takeWhile (· != sep) = before := by
  rw [List.takeWhile_append_of_pos (bne_of_not_mem h), List.takeWhile_cons_of_neg (by simp),
    List.append_nil]

/-- What is left of a text starts at a separator that does not occur before. -/
theorem dropWhile_append_cons {before : List α} (h : sep ∉ before) (after : List α) :
    (before ++ sep :: after).dropWhile (· != sep) = sep :: after := by
  rw [List.dropWhile_append_of_pos (bne_of_not_mem h), List.dropWhile_cons_of_neg (by simp)]

/-- A text without the separator is taken as a whole. -/
theorem takeWhile_of_not_mem {xs : List α} (h : sep ∉ xs) : xs.takeWhile (· != sep) = xs :=
  List.takeWhile_eq_self_iff.mpr (bne_of_not_mem h)

/-- Nothing is left of a text without the separator. -/
theorem dropWhile_of_not_mem {xs : List α} (h : sep ∉ xs) : xs.dropWhile (· != sep) = [] :=
  List.dropWhile_eq_nil_iff.mpr (bne_of_not_mem h)

/-- A text is cut at a separator that does not occur before. -/
theorem cutAt?_append {before after : List α} (h : sep ∉ before) :
    cutAt? sep (before ++ sep :: after) = some (before, after) := by
  unfold cutAt?
  rw [dropWhile_append_cons h, takeWhile_append_cons h]

/-- A text without the separator is not cut. -/
theorem cutAt?_eq_none {xs : List α} (h : sep ∉ xs) : cutAt? sep xs = none := by
  unfold cutAt?
  rw [dropWhile_of_not_mem h]

end Cut

end Text

/-! ## URLs -/

namespace Query.Url

/-- Parts as a URL can have them: the path holds neither `?` nor `#`, the query holds no `#`, and
the fragment starts with `#`. -/
structure Proper (parts : Url) : Prop where
  /-- No query starts in the path. -/
  path_question : '?' ∉ parts.path.toList
  /-- No fragment starts in the path. -/
  path_hash : '#' ∉ parts.path.toList
  /-- No fragment starts in the query. -/
  query_hash : ∀ query, parts.query = some query → '#' ∉ query.toList
  /-- The fragment starts with its `#`. -/
  fragment_hash : ∀ fragment, parts.fragment = some fragment →
    ∃ rest, fragment.toList = '#' :: rest

/-- The parts before the fragment, put together. -/
def visible (parts : Url) : List Char :=
  match parts.query with
  | some query => parts.path.toList ++ '?' :: query.toList
  | none => parts.path.toList

/-- The URL with these parts. -/
def text (parts : Url) : String :=
  String.ofList (parts.visible ++ (parts.fragment.getD "").toList)

/-- A path alone is its own text. -/
theorem text_path {path : String} : text ⟨path, none, none⟩ = path := by
  simp [text, visible]

variable {parts : Url}

/-- The path comes first in what a server sees. -/
theorem path_sublist_visible (parts : Url) : parts.path.toList.Sublist parts.visible := by
  unfold visible
  cases parts.query with
  | none => exact .refl _
  | some query => exact List.sublist_append_left _ _

/-- Less before the fragment, and the same fragment or none, make a part of the text. -/
theorem text_sublist {part : Url} (hvisible : part.visible.Sublist parts.visible)
    (hfragment : part.fragment = none ∨ part.fragment = parts.fragment) :
    part.text.toList.Sublist parts.text.toList := by
  have hrest : (part.fragment.getD "").toList.Sublist (parts.fragment.getD "").toList := by
    rcases hfragment with hnone | hsame
    · rw [hnone]
      exact List.nil_sublist _
    · simp only [hsame, List.Sublist.refl]
  unfold text
  rw [String.toList_ofList, String.toList_ofList]
  exact hvisible.append hrest

/-- No fragment starts before the fragment. -/
theorem Proper.visible_hash (h : parts.Proper) : '#' ∉ parts.visible := by
  unfold visible
  cases hquery : parts.query with
  | none => exact h.path_hash
  | some query =>
    have hno := h.query_hash query hquery
    have hpath := h.path_hash
    simp [hno, hpath]

/-- What a server sees of a URL ends where the fragment starts. -/
theorem Proper.takeWhile_text (h : parts.Proper) :
    parts.text.toList.takeWhile (· != '#') = parts.visible ∧
      parts.text.toList.dropWhile (· != '#') = (parts.fragment.getD "").toList := by
  have hkeep := Text.bne_of_not_mem h.visible_hash
  unfold text
  rw [String.toList_ofList, List.takeWhile_append_of_pos hkeep, List.dropWhile_append_of_pos hkeep]
  cases hfragment : parts.fragment with
  | none => simp
  | some fragment =>
    obtain ⟨rest, hrest⟩ := h.fragment_hash fragment hfragment
    simp [hrest]

/-- The parts that a URL is put together from are found again. -/
theorem Proper.split_text (h : parts.Proper) : Url.split parts.text = parts := by
  obtain ⟨hvisible, hrest⟩ := h.takeWhile_text
  have hfragment : (if (parts.fragment.getD "").toList.isEmpty then none
      else some (String.ofList (parts.fragment.getD "").toList)) = parts.fragment := by
    cases hf : parts.fragment with
    | none => rfl
    | some fragment =>
      obtain ⟨rest, hhash⟩ := h.fragment_hash fragment hf
      rw [Option.getD_some, hhash, ← hhash, String.ofList_toList, hhash]
      rfl
  unfold Url.split
  dsimp only
  rw [hvisible, hrest, hfragment]
  cases hquery : parts.query with
  | none =>
    have hpath : parts.visible = parts.path.toList := by
      unfold visible
      rw [hquery]
    rw [hpath, Text.cutAt?_eq_none h.path_question]
    dsimp only
    rw [String.ofList_toList, ← hquery]
  | some query =>
    have hboth : parts.visible = parts.path.toList ++ '?' :: query.toList := by
      unfold visible
      rw [hquery]
    rw [hboth, Text.cutAt?_append h.path_question]
    dsimp only
    rw [String.ofList_toList, String.ofList_toList, ← hquery]

/-- A URL put together from a path and a query is cut at the `?` between them and at the first `#`
of the query. -/
theorem split_append {path : String} (hquestion : '?' ∉ path.toList) (hhash : '#' ∉ path.toList)
    (query : String) :
    (Url.split (path ++ "?" ++ query)).path = path ∧
      (Url.split (path ++ "?" ++ query)).query = some (beforeFragment query) := by
  have htext : (path ++ "?" ++ query).toList = path.toList ++ '?' :: query.toList := by simp
  have hvisible : (path.toList ++ '?' :: query.toList).takeWhile (· != '#') =
      path.toList ++ '?' :: query.toList.takeWhile (· != '#') := by
    rw [List.takeWhile_append_of_pos (Text.bne_of_not_mem hhash),
      List.takeWhile_cons_of_pos (by decide)]
  unfold Url.split
  dsimp only
  rw [htext, hvisible, Text.cutAt?_append hquestion]
  exact ⟨String.ofList_toList, rfl⟩

/-- Every URL is put together from parts. -/
theorem exists_proper (url : String) : ∃ parts : Url, parts.Proper ∧ parts.text = url := by
  have hcut : ∃ seen : List Char, ∃ fragment : Option String, '#' ∉ seen ∧
      (∀ f, fragment = some f → ∃ rest, f.toList = '#' :: rest) ∧
      url.toList = seen ++ (fragment.getD "").toList := by
    by_cases hhash : '#' ∈ url.toList
    · obtain ⟨before, after, hurl, hbefore⟩ := List.eq_append_cons_of_mem hhash
      refine ⟨before, some (String.ofList ('#' :: after)), hbefore, ?_, ?_⟩
      · rintro f hf
        cases hf
        exact ⟨after, String.toList_ofList⟩
      · rw [Option.getD_some, String.toList_ofList, hurl]
    · refine ⟨url.toList, none, hhash, ?_, ?_⟩
      · intro f hf
        cases hf
      · simp
  obtain ⟨seen, fragment, hseen, hfragment, hurl⟩ := hcut
  by_cases hquestion : '?' ∈ seen
  · obtain ⟨path, query, hsplit, hpath⟩ := List.eq_append_cons_of_mem hquestion
    rw [hsplit, List.mem_append, List.mem_cons, not_or, not_or] at hseen
    refine ⟨⟨String.ofList path, some (String.ofList query), fragment⟩,
      ⟨?_, ?_, ?_, hfragment⟩, ?_⟩
    · rw [String.toList_ofList]
      exact hpath
    · rw [String.toList_ofList]
      exact hseen.1
    · rintro q hq
      cases hq
      rw [String.toList_ofList]
      exact hseen.2.2
    · rw [← String.toList_inj, hurl, hsplit]
      simp [text, visible]
  · refine ⟨⟨String.ofList seen, none, fragment⟩, ⟨?_, ?_, ?_, hfragment⟩, ?_⟩
    · rw [String.toList_ofList]
      exact hquestion
    · rw [String.toList_ofList]
      exact hseen
    · intro q hq
      cases hq
    · rw [← String.toList_inj, hurl]
      simp [text, visible]

/-- A URL is taken apart into proper parts. -/
theorem proper_split (url : String) : (Url.split url).Proper := by
  obtain ⟨parts, hproper, rfl⟩ := exists_proper url
  rw [hproper.split_text]
  exact hproper

/-- A URL is the text of the parts that it is taken apart into. -/
theorem text_split (url : String) : (Url.split url).text = url := by
  obtain ⟨parts, hproper, rfl⟩ := exists_proper url
  rw [hproper.split_text]

end Query.Url

/-! ## Segments -/

namespace Query

/-- A segment as a query can have it: it is read from a text that is not empty and holds no `&`. -/
structure Segment.Proper (segment : Segment) : Prop where
  /-- The text is not empty. -/
  raw_ne : segment.raw.toList ≠ []
  /-- The text holds no `&`. -/
  raw_ampersand : '&' ∉ segment.raw.toList
  /-- Key and value are read from the text. -/
  eq_ofRaw : segment = Segment.ofRaw segment.raw.toList

/-- The segments of a query are proper. -/
theorem proper_of_mem_segments {query : String} {segment : Segment}
    (h : segment ∈ segments query) : segment.Proper := by
  obtain ⟨raw, hraw, rfl⟩ := List.mem_map.mp h
  obtain ⟨hmem, hne⟩ := List.mem_filter.mp hraw
  have htext : (Segment.ofRaw raw).raw.toList = raw := String.toList_ofList
  refine ⟨?_, ?_, ?_⟩
  · rw [htext]
    simpa using hne
  · rw [htext]
    exact Text.not_mem_of_mem_splitOn hmem
  · rw [htext]

/-- Segments joined by `&`. -/
def joined (kept : List Segment) : String :=
  String.ofList (['&'].intercalate (kept.map (·.raw.toList)))

/-- Proper segments that are joined are found again. -/
theorem segments_joined {kept : List Segment} (h : ∀ segment ∈ kept, segment.Proper) :
    segments (joined kept) = kept := by
  unfold segments joined
  rw [String.toList_ofList]
  by_cases hempty : kept = []
  · subst hempty
    rfl
  have hampersand : ∀ raw ∈ kept.map (·.raw.toList), '&' ∉ raw := by
    intro raw hraw
    obtain ⟨segment, hmem, rfl⟩ := List.mem_map.mp hraw
    exact (h segment hmem).raw_ampersand
  have hnonempty : ∀ raw ∈ kept.map (·.raw.toList), (!raw.isEmpty) = true := by
    intro raw hraw
    obtain ⟨segment, hmem, rfl⟩ := List.mem_map.mp hraw
    have hne := (h segment hmem).raw_ne
    simpa using hne
  have hmap : kept.map (Segment.ofRaw ∘ fun segment => segment.raw.toList) = kept.map id := by
    apply List.map_congr_left
    intro segment hmem
    exact (h segment hmem).eq_ofRaw.symm
  rw [List.splitOn_intercalate _ hampersand (by simpa using hempty),
    List.filter_eq_self.mpr hnonempty, List.map_map, hmap, List.map_id]

/-- Joining some of the segments of a query takes only characters away. -/
theorem joined_sublist {kept : List Segment} {query : String}
    (h : kept.Sublist (segments query)) : (joined kept).toList.Sublist query.toList := by
  have hraw : (segments query).map (·.raw.toList) =
      (query.toList.splitOn '&').filter fun raw => !raw.isEmpty := by
    unfold segments
    rw [List.map_map]
    have hid : ((fun segment : Segment => segment.raw.toList) ∘ Segment.ofRaw) = id := by
      funext raw
      exact String.toList_ofList
    rw [hid, List.map_id]
  have hpieces : (kept.map (·.raw.toList)).Sublist (query.toList.splitOn '&') := by
    refine (h.map (·.raw.toList)).trans ?_
    rw [hraw]
    exact List.filter_sublist
  have hjoined := Text.intercalate_sublist ['&'] hpieces
  rw [List.intercalate_splitOn] at hjoined
  unfold joined
  rw [String.toList_ofList]
  exact hjoined

/-- A character that is not in a text is neither in the key nor in the value read from it. -/
theorem Segment.not_mem_ofRaw {c : Char} {raw : List Char} (h : c ∉ raw) :
    c ∉ (Segment.ofRaw raw).key.toList ∧ c ∉ (Segment.ofRaw raw).value.toList := by
  unfold Segment.ofRaw
  by_cases hequals : '=' ∈ raw
  · obtain ⟨before, after, rfl, hbefore⟩ := List.eq_append_cons_of_mem hequals
    rw [List.mem_append, List.mem_cons, not_or, not_or] at h
    rw [Text.cutAt?_append hbefore]
    dsimp only [Option.getD_some]
    rw [String.toList_ofList, String.toList_ofList]
    exact ⟨h.1, h.2.2⟩
  · rw [Text.cutAt?_eq_none hequals]
    dsimp only [Option.getD_none]
    rw [String.toList_ofList, String.toList_ofList]
    exact ⟨h, List.not_mem_nil⟩

/-- A character that is not in a query is neither in the keys nor in the values of its segments. -/
theorem not_mem_of_mem_segments {c : Char} {query : String} (h : c ∉ query.toList)
    {segment : Segment} (hmem : segment ∈ segments query) :
    c ∉ segment.key.toList ∧ c ∉ segment.value.toList := by
  have hsublist := joined_sublist (List.singleton_sublist.mpr hmem)
  have hjoined : (joined [segment]).toList = segment.raw.toList := by
    unfold joined
    rw [String.toList_ofList, List.map_singleton, Text.intercalate_cons, List.flatMap_nil,
      List.append_nil]
  rw [hjoined] at hsublist
  rw [(proper_of_mem_segments hmem).eq_ofRaw]
  exact Segment.not_mem_ofRaw fun hc => h (hsublist.mem hc)

end Query

/-! ## Buffers -/

namespace Buffer

/-- Segments pushed to a buffer with contents stand behind them, each with an `&` in front. -/
theorem text_foldl_pushSegment {buffer : Buffer} (hbuffer : buffer.text ≠ "")
    (kept : List Query.Segment) :
    (kept.foldl (fun buffer segment => buffer.pushSegment segment.raw) buffer).text.toList =
      buffer.text.toList ++ (kept.map (·.raw.toList)).flatMap (['&'] ++ ·) := by
  induction kept generalizing buffer with
  | nil => simp
  | cons segment kept ih =>
    have hpush : (buffer.pushSegment segment.raw).text = buffer.text ++ "&" ++ segment.raw := by
      unfold pushSegment
      rw [if_neg (by simpa using hbuffer)]
      rfl
    have hne : (buffer.pushSegment segment.raw).text ≠ "" := by
      rw [hpush]
      intro hempty
      have hchars := congrArg String.toList hempty
      simp at hchars
    rw [List.foldl_cons, ih hne, hpush]
    simp

/-- Proper segments pushed to an empty buffer are joined. -/
theorem text_foldl_pushSegment_of_empty {buffer : Buffer} (hbuffer : buffer.text = "")
    {kept : List Query.Segment} (h : ∀ segment ∈ kept, segment.Proper) :
    (kept.foldl (fun buffer segment => buffer.pushSegment segment.raw) buffer).text =
      Query.joined kept := by
  cases kept with
  | nil => exact hbuffer
  | cons segment kept =>
    have hpush : (buffer.pushSegment segment.raw).text = segment.raw := by
      unfold pushSegment push
      rw [hbuffer, if_pos (by decide), String.empty_append]
    have hne : (buffer.pushSegment segment.raw).text ≠ "" := by
      rw [hpush]
      intro hempty
      exact (h segment List.mem_cons_self).raw_ne (by rw [hempty]; rfl)
    rw [List.foldl_cons, ← String.toList_inj, text_foldl_pushSegment hne, hpush]
    unfold Query.joined
    rw [String.toList_ofList, List.map_cons, Text.intercalate_cons]

end Buffer

end QueryGate
