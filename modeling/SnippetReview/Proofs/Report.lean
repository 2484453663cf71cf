import SnippetReview.Enrichment
import SnippetReview.Profile.Rule
import SnippetReview.Proofs.Text.Pieces

namespace SnippetReview

structure Report.Agrees (r : Report) : Prop where
  errors : r.errorCount = countOf .error r.findings
  warnings : r.warningCount = countOf .warning r.findings
  flag : r.hasErrors = true ↔ 0 < r.errorCount
  lines : ∀ f ∈ r.findings, 1 ≤ f.line

structure Report.Describes (r : Report) (code : Text) : Prop where
  within : ∀ f ∈ r.findings, f.line ≤ max 1 (Text.lines code).length
  total : r.errorCount + r.warningCount = r.findings.length
  explanation : r.explanation = explain r.errorCount r.warningCount

theorem countOf_add_countOf (findings : List Finding) :
    countOf .error findings + countOf .warning findings = findings.length := by
  induction findings with
  | nil => rfl
  | cons f findings ih =>
    simp only [countOf, List.countP_cons, List.length_cons] at ih ⊢
    cases f.severity <;> simp <;> omega

namespace Report

theorem isConsistent_iff (r : Report) : r.isConsistent = true ↔ r.Agrees := by
  simp only [isConsistent, Bool.and_eq_true, beq_iff_eq, List.all_eq_true, decide_eq_true_eq]
  constructor
  · rintro ⟨⟨⟨he, hw⟩, hf⟩, hl⟩
    exact ⟨he, hw, by rw [hf, decide_eq_true_iff], hl⟩
  · rintro ⟨he, hw, hf, hl⟩
    exact ⟨⟨⟨he, hw⟩, Bool.eq_iff_iff.mpr (by rw [hf, decide_eq_true_iff])⟩, hl⟩

theorem degraded_agrees : degraded.Agrees :=
  degraded.isConsistent_iff.mp (by decide)

theorem ofFindings_agrees {findings : List Finding} (h : ∀ f ∈ findings, 1 ≤ f.line)
    (corrected : Text) : (ofFindings findings corrected).Agrees :=
  ⟨rfl, rfl, decide_eq_true_iff, h⟩

end Report

namespace Enrichment

theorem of_accept {raw : Text} {r : Report} (h : accept raw = .ok r) :
    (Json.read? (stripFence raw)).bind Report.ofJson? = some r ∧ r.isConsistent = true := by
  rw [accept] at h
  split at h
  · cases h
  · rename_i hq
    split at h
    · cases h
    · split at h
      · rename_i hc
        cases h
        exact ⟨hq, hc⟩
      · cases h

theorem agrees_of_accept {raw : Text} {r : Report} (h : accept raw = .ok r) : r.Agrees :=
  (Report.isConsistent_iff r).mp (of_accept h).2

end Enrichment

namespace Profile

-- The findings on lines are those of the rules that flag a line and are not silenced.
theorem mem_lineFindings {profile : Profile} {source : Text} {f : Finding} :
    f ∈ profile.lineFindings source ↔ ∃ i line, (Text.lines source)[i]? = some line ∧
      ∃ rule ∈ profile.lineRules, rule.silencedBy source = false ∧
        rule.flags (Text.trim line) = true ∧ f = rule.finding (i + 1) := by
  simp only [lineFindings, activeRules, List.mem_flatMap, Prod.exists, List.mem_filterMap,
    List.mem_filter, Bool.not_eq_true', Option.ite_none_right_eq_some, Option.some.injEq]
  constructor
  · rintro ⟨line, number, hm, rule, ⟨hr, hs⟩, hf, rfl⟩
    obtain ⟨hn, hl⟩ := List.mk_mem_zipIdx_iff_le_and_getElem?_sub.mp hm
    exact ⟨number - 1, line, hl, rule, hr, hs, hf, by rw [Nat.sub_add_cancel hn]⟩
  · rintro ⟨i, line, hl, rule, hr, hs, hf, rfl⟩
    exact ⟨line, i + 1, List.mk_mem_zipIdx_iff_le_and_getElem?_sub.mpr ⟨by omega, hl⟩, rule,
      ⟨hr, hs⟩, hf, rfl⟩

theorem line_of_mem_balanceFindings {profile : Profile} {source : Text} {f : Finding}
    (h : f ∈ profile.balanceFindings source) : f.line = 1 := by
  obtain ⟨rule, -, hf⟩ := List.mem_filterMap.mp h
  rw [BalanceRule.check] at hf
  split at hf
  · cases hf
  · cases hf
    rfl

theorem line_of_mem_findings {profile : Profile} {source : Text} {f : Finding}
    (h : f ∈ profile.findings source) : 1 ≤ f.line ∧ f.line ≤ max 1 (Text.lines source).length := by
  rcases List.mem_append.mp h with hl | hb
  · obtain ⟨i, line, hi, rule, -, -, -, rfl⟩ := mem_lineFindings.mp hl
    have hlt : i < (Text.lines source).length := (List.getElem?_eq_some_iff.mp hi).1
    simp only [LineRule.finding]
    omega
  · have := line_of_mem_balanceFindings hb
    omega

theorem exists_line_of_mem_findings {profile : Profile} {source : Text} {f : Finding}
    (h : f ∈ profile.findings source) :
    1 ≤ f.line ∧ ∃ line, (Text.lines source)[f.line - 1]? = some line := by
  refine ⟨(line_of_mem_findings h).1, ?_⟩
  rcases List.mem_append.mp h with h | h
  · obtain ⟨i, line, hl, rule, -, -, -, rfl⟩ := mem_lineFindings.mp h
    exact ⟨line, hl⟩
  · -- A source without lines has no characters to be out of balance.
    have hne : source ≠ [] := by
      rintro rfl
      obtain ⟨rule, -, hf⟩ := List.mem_filterMap.mp h
      simp [BalanceRule.check] at hf
    rw [line_of_mem_balanceFindings h]
    obtain ⟨line, rest, hl⟩ := List.exists_cons_of_ne_nil (Text.lines_ne_nil hne)
    exact ⟨line, by rw [hl]; rfl⟩

theorem review_agrees (profile : Profile) (code : Text) : (profile.review code).Agrees :=
  Report.ofFindings_agrees (fun _ hf => (line_of_mem_findings hf).1) _

theorem review_describes (profile : Profile) (code : Text) :
    (profile.review code).Describes code :=
  ⟨fun _ hf => (line_of_mem_findings hf).2, countOf_add_countOf _, rfl⟩

end Profile

end SnippetReview
