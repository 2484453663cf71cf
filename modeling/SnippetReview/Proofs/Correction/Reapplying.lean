import SnippetReview.Proofs.Correction.Seams
import SnippetReview.Proofs.Profile.Compile

/-!
Applying an accepted replacement to its own result. Its pattern does not match the text that it
writes, so a second time it changes nothing but what meets at a seam of the first time.
-/

namespace SnippetReview

open Pattern

theorem Correction.exists_seam {correction : Correction}
    (hnew : correction.pattern.occursIn correction.replacement = false) {text : Text}
    {marks : List (Option Char)} (hmarks : correction.pattern.Marks false (Cursor.start text) marks)
    (hw : correction.apply text = written correction.replacement marks) {n : Nat} {d : Cursor}
    (hn : n ≤ (correction.apply text).length)
    (hd : correction.pattern.matchAt ((Cursor.start (correction.apply text)).advance n) = some d) :
    ∃ seam, IsSeam correction.replacement marks seam ∧ n ≤ seam ∧ seam ≤ d.pos ∧
      (correction.pattern.looks = false → n < seam ∧ seam < d.pos) := by
  obtain ⟨w, rest, hrest, hm, rfl⟩ := Regex.exists_of_matchAt hd
  rw [Cursor.advance_append hrest]
  rw [Cursor.advance_eq hn] at hrest hm ⊢
  have hlen : (List.take n (correction.apply text)).length = n := List.length_take_of_le hn
  have ho : written correction.replacement marks =
      (correction.apply text).take n ++ (w ++ rest) := by
    rw [← hw, ← show (correction.apply text).drop n = w ++ rest from hrest, List.take_append_drop]
  have hpos : (Cursor.start (correction.apply text)).pos = 0 := rfl
  cases hl : correction.pattern.looks with
  | true =>
    obtain ⟨seam, hs, hlo, hhi⟩ := hmarks.exists_seam hnew []
      (.inr ⟨by simp, rfl, rfl⟩) ho hm
    rw [hlen] at hlo hhi
    exact ⟨seam, hs, by simpa [written] using hlo, by simpa [written, hpos] using hhi, by simp⟩
  | false =>
    obtain ⟨seam, hs, hlo, hhi⟩ := hmarks.exists_seam_within hl hnew [] ho hm
    rw [hlen] at hlo hhi
    have hlo : n < seam := by simpa [written] using hlo
    have hhi : seam < n + w.length := by simpa [written] using hhi
    simp only [hpos]
    exact ⟨seam, hs, by omega, by omega, fun _ => ⟨hlo, by omega⟩⟩

/-- Applied to its own result, an accepted replacement changes it only if its pattern has a match
there that touches a seam, and that reaches over the seam if the pattern does not look around. -/
theorem ProfileTable.reapplied {t : ProfileTable} {profile : Profile} (h : t.compile = .ok profile)
    {correction : Correction} (hc : correction ∈ profile.corrections) (text : Text) :
    ∃ marks, (∀ new, correction.pattern.replaceAll new text = written new marks) ∧
      (correction.apply (correction.apply text) = correction.apply text ∨
        ∃ n d seam, n ≤ (correction.apply text).length ∧
          correction.pattern.matchAt ((Cursor.start (correction.apply text)).advance n) = some d ∧
          IsSeam correction.replacement marks seam ∧ n ≤ seam ∧ seam ≤ d.pos ∧
          (correction.pattern.looks = false → n < seam ∧ seam < d.pos)) := by
  obtain ⟨marks, hmarks, hw⟩ := correction.pattern.exists_marks text
  refine ⟨marks, hw, ?_⟩
  cases ho : correction.pattern.occursIn (correction.apply text) with
  | false => exact .inl (Regex.replaceAll_of_not_occursIn ho)
  | true =>
    obtain ⟨n, hn, hs⟩ := Regex.exists_of_occursIn ho
    obtain ⟨d, hd⟩ := Option.isSome_iff_exists.mp hs
    obtain ⟨seam, hseam⟩ := Correction.exists_seam (occursIn_replacement h hc) hmarks (hw _) hn hd
    exact .inr ⟨n, d, seam, hn, hd, hseam⟩

def ProfileTable.nibbling : ProfileTable where
  id := "javascript".toList
  corrections := [
    { pattern := "ab".toList, replacement := "b".toList },
    { pattern := "a|\\Bb".toList, replacement := "bc".toList }]

theorem ProfileTable.exists_nibbling :
    ∃ profile, nibbling.compile = .ok profile ∧ profile.corrections.length = 2 ∧
      ∀ correction ∈ profile.corrections,
        correction.apply (correction.apply "aab".toList) ≠ correction.apply "aab".toList := by
  have hrun : ∀ profile ∈ nibbling.compile.toOption, profile.corrections.length = 2 ∧
      ∀ correction ∈ profile.corrections,
        correction.apply (correction.apply "aab".toList) ≠ correction.apply "aab".toList := by
    decide +kernel
  have hsome : nibbling.compile.toOption.isSome = true := by decide +kernel
  cases hc : nibbling.compile with
  | error e =>
    rw [hc] at hsome
    cases hsome
  | ok profile =>
    rw [hc] at hrun
    exact ⟨profile, rfl, hrun profile rfl⟩

/-- A pattern that does not match its replacement may well match after it is applied. -/
theorem ProfileTable.reapplied_differs :
    ∃ profile, nibbling.compile = .ok profile ∧ ∃ correction ∈ profile.corrections,
      correction.pattern.occursIn correction.replacement = false ∧
      correction.apply (correction.apply "aab".toList) ≠ correction.apply "aab".toList := by
  obtain ⟨profile, hp, hl, hrun⟩ := exists_nibbling
  have hm : profile.corrections[0] ∈ profile.corrections := List.getElem_mem (by omega)
  exact ⟨profile, hp, _, hm, occursIn_replacement hp hm, hrun _ hm⟩

theorem ProfileTable.reapplied_nibbling :
    ∃ profile, nibbling.compile = .ok profile ∧ profile.corrections.length = 2 ∧
      ∀ correction ∈ profile.corrections, ∃ marks n d seam,
        written correction.replacement marks = correction.apply "aab".toList ∧
        correction.pattern.matchAt
          ((Cursor.start (correction.apply "aab".toList)).advance n) = some d ∧
        IsSeam correction.replacement marks seam ∧ n ≤ seam ∧ seam ≤ d.pos ∧
        (correction.pattern.looks = false → n < seam ∧ seam < d.pos) := by
  obtain ⟨profile, hp, hl, hrun⟩ := exists_nibbling
  refine ⟨profile, hp, hl, fun correction hc => ?_⟩
  obtain ⟨marks, hw, hs⟩ := reapplied hp hc "aab".toList
  obtain ⟨n, d, seam, -, hd, hseam⟩ := hs.resolve_left (hrun correction hc)
  exact ⟨marks, n, d, seam, (hw correction.replacement).symm, hd, hseam⟩

end SnippetReview
