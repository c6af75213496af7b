import Mathlib.Data.List.Sort
import Mathlib.Data.Prod.Lex
import Mathlib.Data.String.Basic
import QueryGate.Pattern.Specificity

/-!
# The order in which patterns are consulted

Specificities are ordered lexicographically by their five measures, where fewer wildcards count for
more. Patterns are consulted in descending order of specificity, and equally specific ones in
ascending order of their texts. Patterns of distinct texts therefore have exactly one order.
-/

namespace QueryGate

/-- What a search in an ordered list finds comes before everything else that could be found. -/
theorem eq_or_rel_of_find? {α : Type} {r : α → α → Prop} {p : α → Bool} {xs : List α} {found x : α}
    (hsorted : xs.Pairwise r) (hfind : xs.find? p = some found) (hmem : x ∈ xs)
    (hx : p x = true) : found = x ∨ r found x := by
  obtain ⟨-, before, after, rfl, hbefore⟩ := List.find?_eq_some_iff_append.mp hfind
  rcases List.mem_append.mp hmem with hearly | hlate
  · have hno := hbefore x hearly
    rw [hx] at hno
    contradiction
  · rcases List.mem_cons.mp hlate with rfl | hlater
    · exact .inl rfl
    · have htail := (List.pairwise_append.mp hsorted).2.1
      exact .inr ((List.pairwise_cons.mp htail).1 x hlater)

namespace Pattern

namespace Specificity

/-- The measures, each one before those that it takes precedence over. -/
def rank (s : Specificity) : Bool ×ₗ ℕᵒᵈ ×ₗ Bool ×ₗ ℕ ×ₗ ℕ :=
  toLex (s.literal, toLex (OrderDual.toDual s.wildcards,
    toLex (s.inner, toLex (s.segments, s.literalLength))))

/-- The measures make up the specificity. -/
theorem rank_injective : Function.Injective rank := by
  rintro ⟨⟩ ⟨⟩ h
  simpa [rank] using h

/-- The greater specificity is the one with the first greater measure. -/
instance : LinearOrder Specificity :=
  LinearOrder.lift' rank rank_injective

/-- Comparing measure by measure compares the ranks. -/
theorem compare_eq_compare_rank (a b : Specificity) :
    Specificity.compare a b = Ord.compare a.rank b.rank := rfl

/-- A comparison comes out smaller for the less specific side. -/
theorem compare_eq_lt_iff (a b : Specificity) : Specificity.compare a b = .lt ↔ a < b := by
  rw [compare_eq_compare_rank, compare_lt_iff_lt]
  rfl

/-- A comparison comes out greater for the more specific side. -/
theorem compare_eq_gt_iff (a b : Specificity) : Specificity.compare a b = .gt ↔ b < a := by
  rw [compare_eq_compare_rank, compare_gt_iff_gt]
  rfl

/-- A comparison comes out equal only for equal measures. -/
theorem compare_eq_eq_iff (a b : Specificity) : Specificity.compare a b = .eq ↔ a = b := by
  rw [compare_eq_compare_rank, compare_eq_iff_eq, rank_injective.eq_iff]

end Specificity

/-- Pattern `p` is more specific than `q`, or as specific with a text that is not the later one. -/
def Precedes (p q : Pattern) : Prop :=
  q.specificity < p.specificity ∨ p.specificity = q.specificity ∧ p.text ≤ q.text

instance (p q : Pattern) : Decidable (p.Precedes q) :=
  inferInstanceAs (Decidable (_ ∨ _))

/-- The comparison of patterns decides which one precedes. -/
theorem precedes_iff (p q : Pattern) : p.precedes q = true ↔ p.Precedes q := by
  unfold precedes Precedes
  cases hc : Specificity.compare p.specificity q.specificity with
  | lt =>
    have hlt := (Specificity.compare_eq_lt_iff _ _).mp hc
    simp [hlt.le, hlt.ne]
  | eq =>
    have heq := (Specificity.compare_eq_eq_iff _ _).mp hc
    simp [heq]
  | gt =>
    have hgt := (Specificity.compare_eq_gt_iff _ _).mp hc
    simp [hgt]

/-- A pattern precedes itself. -/
theorem Precedes.refl (p : Pattern) : p.Precedes p :=
  .inr ⟨rfl, le_refl p.text⟩

/-- Of two patterns one precedes the other. -/
theorem precedes_total (p q : Pattern) : p.Precedes q ∨ q.Precedes p := by
  unfold Precedes
  rcases lt_trichotomy p.specificity q.specificity with h | h | h
  · exact .inr (.inl h)
  · rcases le_total p.text q.text with ht | ht
    · exact .inl (.inr ⟨h, ht⟩)
    · exact .inr (.inr ⟨h.symm, ht⟩)
  · exact .inl (.inl h)

/-- What precedes a pattern precedes those that the pattern precedes. -/
theorem Precedes.trans {p q r : Pattern} (hpq : p.Precedes q) (hqr : q.Precedes r) :
    p.Precedes r := by
  rcases hpq with hpq | ⟨hpq, htpq⟩
  · rcases hqr with hqr | ⟨hqr, _⟩
    · exact .inl (hqr.trans hpq)
    · exact .inl (hqr ▸ hpq)
  · rcases hqr with hqr | ⟨hqr, htqr⟩
    · exact .inl (hpq ▸ hqr)
    · exact .inr ⟨hpq.trans hqr, htpq.trans htqr⟩

/-- Patterns that precede each other have one text. -/
theorem Precedes.text_eq {p q : Pattern} (hpq : p.Precedes q) (hqp : q.Precedes p) :
    p.text = q.text := by
  rcases hpq with hpq | ⟨hpq, htpq⟩
  · rcases hqp with hqp | ⟨hqp, _⟩
    · exact absurd hpq hqp.not_gt
    · exact absurd hqp hpq.ne
  · rcases hqp with hqp | ⟨_, htqp⟩
    · exact absurd hpq hqp.ne
    · exact htpq.antisymm htqp

end Pattern

end QueryGate
