import SnippetReview.Proofs.Correction.Commuting
import SnippetReview.Proofs.Shipped.Corrections

namespace SnippetReview.Shipped

open Pattern

theorem rewordings_apart : ∀ r ∈ rewordings, Rewording.AllApart r.2 := by
  decide +kernel

/-- Each two replacements of a shipped profile commute, and in every order all of them correct a
text alike. -/
theorem corrections_any_order :
    ∃ found, catalog = .ok found ∧
      found.ids = ["cpp".toList, "java".toList, "javascript".toList, "python".toList] ∧
      ∀ profile ∈ found.profiles,
        (∀ c ∈ profile.corrections, ∀ d ∈ profile.corrections, ∀ text,
          c.apply (d.apply text) = d.apply (c.apply text)) ∧
        ∀ corrections : List Correction, corrections.Perm profile.corrections → ∀ text,
          { profile with corrections }.correct text = profile.correct text := by
  obtain ⟨found, hc, hids, hprofiles⟩ := exists_catalog
  refine ⟨found, hc, hids, fun profile hm => ?_⟩
  obtain ⟨r, hr, -, hcorrections⟩ := hprofiles profile hm
  have h : profile.Commutes := Profile.commutes_of_allApart hcorrections (rewordings_apart r hr)
  exact ⟨h, fun corrections hp text => h.correct_perm hp text⟩

theorem corrections_any_order_reversed :
    ∃ found, catalog = .ok found ∧ ∃ profile ∈ found.profiles, profile.id = "python".toList ∧
      profile.corrections.reverse ≠ profile.corrections ∧
      { profile with corrections := profile.corrections.reverse }.correct "a && || b".toList =
        "a and or b".toList := by
  obtain ⟨found, hc, -, h⟩ := corrections_any_order
  obtain ⟨profile, hm, hid, hcorrections⟩ :=
    exists_profile hc (r := ("python".toList, pythonRewordings)) (by simp [rewordings])
  refine ⟨found, hc, profile, hm, hid, ?_, ?_⟩
  · rw [hcorrections]
    decide +kernel
  · rw [(h profile hm).2 _ (List.reverse_perm _), Profile.correct_eq_applyAll hcorrections]
    decide +kernel

end SnippetReview.Shipped
