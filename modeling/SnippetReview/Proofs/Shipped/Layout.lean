import SnippetReview.Proofs.Correction.Layout
import SnippetReview.Proofs.Profile.Findings
import SnippetReview.Proofs.Report
import SnippetReview.Proofs.Shipped.Corrections

namespace SnippetReview

open Pattern Text

namespace Shipped

theorem rewordings_frame : ∀ r ∈ rewordings, ∀ w ∈ r.2, frame w.new = frame w.phrase.letters := by
  decide

theorem tables_balance : ∀ t ∈ tables, ∀ u ∈ t.balanceRules,
    u.opening.any isPliant = false ∧ u.closing.any isPliant = false := by
  decide

/-- What is on the two sides of a newline is corrected on its own. Hence the lines of a corrected
text are the corrected lines of the text, and a finding is on a line of both. -/
theorem corrections_by_line :
    ∃ found, catalog = .ok found ∧
      found.ids = ["cpp".toList, "java".toList, "javascript".toList, "python".toList] ∧
      ∀ profile ∈ found.profiles,
        (∀ before after, profile.correct (before ++ '\n' :: after) =
          profile.correct before ++ '\n' :: profile.correct after) ∧
        ∀ text, lines (profile.correct text) = (lines text).map profile.correct ∧
          ∀ f ∈ profile.findings text, 1 ≤ f.line ∧ ∃ line, (lines text)[f.line - 1]? = some line ∧
            (lines (profile.correct text))[f.line - 1]? = some (profile.correct line) := by
  obtain ⟨found, hc, hids, hprofiles⟩ := exists_catalog
  refine ⟨found, hc, hids, fun profile hm => ?_⟩
  obtain ⟨r, hr, -, hcorrections⟩ := hprofiles profile hm
  have hw := rewordings_within_lines r hr
  have hcorrect : profile.correct = Rewording.applyAll r.2 :=
    funext (Profile.correct_eq_applyAll hcorrections)
  have hnewline : Piecewise '\n' profile.correct := by
    rw [hcorrect]
    exact Rewording.piecewise_applyAll (by decide) fun w hm => ⟨(hw w hm).1.1, (hw w hm).2.1⟩
  have hlines (text : Text) : lines (profile.correct text) = (lines text).map profile.correct := by
    rw [hcorrect]
    exact Rewording.lines_applyAll hw text
  refine ⟨hnewline.append, fun text => ⟨hlines text, fun f hf => ?_⟩⟩
  obtain ⟨hone, line, hl⟩ := Profile.exists_line_of_mem_findings hf
  refine ⟨hone, line, hl, ?_⟩
  rw [hlines, List.getElem?_map, hl]
  rfl

theorem corrections_by_line_operators :
    ∃ found, catalog = .ok found ∧ ∃ profile ∈ found.profiles, profile.id = "python".toList ∧
      profile.correct "a && \r\n || true".toList = "a and \r\n or True".toList ∧
      (lines "a && \r\n || true".toList).map profile.correct =
        ["a and ".toList, " or True".toList] := by
  obtain ⟨found, hc, -, h⟩ := corrections_by_line
  obtain ⟨profile, hm, hid, hcorrections⟩ :=
    exists_profile hc (r := ("python".toList, pythonRewordings)) (by simp [rewordings])
  obtain ⟨happend, hlines⟩ := h profile hm
  have hcorrect : profile.correct "a && \r\n || true".toList = "a and \r\n or True".toList := by
    refine (happend "a && \r".toList " || true".toList).trans ?_
    rw [Profile.correct_eq_applyAll hcorrections, Profile.correct_eq_applyAll hcorrections]
    decide +kernel
  refine ⟨found, hc, profile, hm, hid, hcorrect, ?_⟩
  rw [← (hlines _).1, hcorrect]
  rfl

/-- Corrections leave all characters but letters, blanks and the signs of operators in place. They
change no count that a balance rule compares, and so nothing that these rules report. -/
theorem corrections_keep_frame :
    ∃ found, catalog = .ok found ∧
      found.ids = ["cpp".toList, "java".toList, "javascript".toList, "python".toList] ∧
      ∀ profile ∈ found.profiles, ∀ text,
        frame (profile.correct text) = frame text ∧
        (∀ rule ∈ profile.balanceRules,
          (profile.correct text).count rule.opening = text.count rule.opening ∧
          (profile.correct text).count rule.closing = text.count rule.closing) ∧
        profile.balanceFindings (profile.correct text) = profile.balanceFindings text := by
  obtain ⟨found, hc, hids, hprofiles⟩ := exists_catalog
  refine ⟨found, hc, hids, fun profile hm text => ?_⟩
  obtain ⟨r, hr, -, hcorrections⟩ := hprofiles profile hm
  have hframe : frame (profile.correct text) = frame text := by
    rw [Profile.correct_eq_applyAll hcorrections]
    exact Rewording.frame_applyAll (rewordings_frame r hr) text
  have hcounts : ∀ rule ∈ profile.balanceRules,
      (profile.correct text).count rule.opening = text.count rule.opening ∧
      (profile.correct text).count rule.closing = text.count rule.closing := by
    intro rule hrule
    obtain ⟨t, ht, hcompile⟩ := Catalog.exists_table hc hm
    obtain ⟨u, hu, hopening, hclosing⟩ := ProfileTable.exists_balanceTable hcompile hrule
    have hpliant := tables_balance t ht u hu
    simp only [hopening, hclosing, List.any_cons, List.any_nil, Bool.or_false] at hpliant
    exact ⟨count_eq_of_frame_eq hframe hpliant.1, count_eq_of_frame_eq hframe hpliant.2⟩
  exact ⟨hframe, hcounts, Profile.balanceFindings_congr hcounts⟩

theorem corrections_keep_frame_unbalanced :
    ∃ found, catalog = .ok found ∧ ∃ profile ∈ found.profiles, profile.id = "javascript".toList ∧
      profile.correct "lte x = f(\x7b0".toList = "let x = f(\x7b0".toList ∧
      frame "let x = f(\x7b0".toList = frame "lte x = f(\x7b0".toList ∧
      profile.balanceFindings "let x = f(\x7b0".toList =
        profile.balanceFindings "lte x = f(\x7b0".toList := by
  obtain ⟨found, hc, -, h⟩ := corrections_keep_frame
  obtain ⟨profile, hm, hid, hcorrections⟩ :=
    exists_profile hc (r := ("javascript".toList, javascriptRewordings)) (by simp [rewordings])
  have hcorrect : profile.correct "lte x = f(\x7b0".toList = "let x = f(\x7b0".toList := by
    rw [Profile.correct_eq_applyAll hcorrections]
    decide +kernel
  obtain ⟨hframe, -, hbalance⟩ := h profile hm "lte x = f(\x7b0".toList
  rw [hcorrect] at hframe hbalance
  exact ⟨found, hc, profile, hm, hid, hcorrect, hframe, hbalance⟩

end Shipped

end SnippetReview
