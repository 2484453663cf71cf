import SnippetReview.Proofs.Correction.Rewording

namespace SnippetReview.Pattern

namespace Phrase

open Regex

/-- Where an expression can get to along the letters of the phrase, from one of its letters on, in
ways that are open wherever the phrase stands. -/
def along (p : Phrase) : Regex → Nat → List Nat
  | .empty, i => [i]
  | .chars s, i => if p.letters[i]?.any s.contains then [i + 1] else []
  | .look a, i =>
    if a = .word .boundary false ∧ (i = 0 ∧ p.opens ∨ i = p.letters.length ∧ p.closes) then [i]
    else []
  | .seq r q, i => (p.along r i).flatMap (p.along q)
  | .alt r q, i => p.along r i ++ p.along q i
  | .run _ least _, i => if least = 0 then [i] else []
  | _, _ => []

def IsSpelledBy (p : Phrase) (r : Regex) : Prop :=
  p.along r 0 ≠ []

instance (p : Phrase) (r : Regex) : Decidable (p.IsSpelledBy r) :=
  inferInstanceAs (Decidable (¬ _))

variable {p : Phrase} {c : Cursor}

theorem FitsAt.holds_boundary (h : p.FitsAt c.prev c.rest) {i : Nat}
    (hi : i = 0 ∧ p.opens = true ∨ i = p.letters.length ∧ p.closes = true) :
    Assertion.holds (c.advance i) (.word .boundary false) = true := by
  obtain ⟨hp, ho, hc⟩ := h
  rcases hi with ⟨rfl, hi⟩ | ⟨rfl, hi⟩
  · simpa [Assertion.holds, Assertion.edgeHolds, Cursor.advance_zero, Cursor.next] using ho hi
  · simpa [advance_letters hp, Assertion.holds, Assertion.edgeHolds, Cursor.next] using hc hi

theorem rest_advance (h : p.letters <+: c.rest) {i : Nat} {x : Char} (hx : p.letters[i]? = some x) :
    ∃ rest, (c.advance i).rest = x :: rest := by
  obtain ⟨hi, rfl⟩ := List.getElem?_eq_some_iff.mp hx
  obtain ⟨after, ha⟩ := h
  refine ⟨p.letters.drop (i + 1) ++ after, ?_⟩
  rw [Cursor.advance_rest, ← ha, List.drop_append_of_le_length (Nat.le_of_lt hi),
    List.drop_eq_getElem_cons hi]
  rfl

theorem FitsAt.isSome_of_along (h : p.FitsAt c.prev c.rest) {r : Regex} {i j : Nat}
    {k : Continuation} (hj : j ∈ p.along r i) (hk : (k (c.advance j)).isSome) :
    (r.matchThen k (c.advance i)).isSome := by
  induction r generalizing i j k with
  | empty =>
    obtain rfl := List.mem_singleton.mp hj
    exact hk
  | chars s =>
    rw [along] at hj
    split at hj
    · rename_i hs
      obtain rfl := List.mem_singleton.mp hj
      rw [Option.any_eq_true] at hs
      obtain ⟨x, hx, hsx⟩ := hs
      obtain ⟨rest, hr⟩ := rest_advance h.1 hx
      rw [Cursor.advance_add, Cursor.advance_step hr, Cursor.advance_zero] at hk
      simpa [matchThen, hr, hsx] using hk
    · cases hj
  | look a =>
    rw [along] at hj
    split at hj
    · rename_i ha
      obtain ⟨rfl, hi⟩ := ha
      obtain rfl := List.mem_singleton.mp hj
      rw [matchThen, if_pos (h.holds_boundary hi)]
      exact hk
    · cases hj
  | seq r q ihr ihq =>
    obtain ⟨m, hm, hj⟩ := List.mem_flatMap.mp hj
    exact ihr hm (ihq hj hk)
  | alt r q ihr ihq =>
    rw [matchThen, orElse_isSome]
    rcases List.mem_append.mp hj with hj | hj
    · exact .inl (ihr hj hk)
    · exact .inr (ihq hj hk)
  | run s least greedy =>
    rw [along] at hj
    split at hj
    · rename_i hl
      obtain rfl := List.mem_singleton.mp hj
      exact matchThen_run_isSome.mpr ⟨0, runTo_zero.mpr hl, hk⟩
    · cases hj
  | star | copies | upTo => cases hj

theorem IsSpelledBy.isSome (h : p.FitsAt c.prev c.rest) {r : Regex} (hr : p.IsSpelledBy r) :
    (r.matchAt c).isSome := by
  obtain ⟨j, hj⟩ := List.exists_mem_of_ne_nil _ hr
  exact h.isSome_of_along (k := some) hj rfl

end Phrase

end SnippetReview.Pattern
