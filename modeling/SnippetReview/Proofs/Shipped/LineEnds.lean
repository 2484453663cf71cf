import SnippetReview.Proofs.Correction.LineEnds
import SnippetReview.Proofs.Profile.Findings
import SnippetReview.Proofs.Shipped.Corrections

namespace SnippetReview

open Pattern Text

namespace Profile

theorem lineFindings_crlf {profile : Profile} {source : Text}
    (h : ∀ rule ∈ profile.lineRules, rule.silencedBy (crlf source) = rule.silencedBy source) :
    profile.lineFindings (crlf source) = profile.lineFindings source := by
  rw [lineFindings_eq, lineFindings_eq, trim_lines_crlf, activeRules_congr h]

theorem balanceFindings_crlf {profile : Profile}
    (h : ∀ rule ∈ profile.balanceRules, rule.opening ≠ '\r' ∧ rule.closing ≠ '\r')
    (source : Text) : profile.balanceFindings (crlf source) = profile.balanceFindings source :=
  balanceFindings_congr fun rule hr =>
    ⟨count_crlf (h rule hr).1 source, count_crlf (h rule hr).2 source⟩

end Profile

namespace Shipped

def returnWord : Phrase where
  opens := true
  letters := ['r', 'e', 't', 'u', 'r', 'n']
  closes := true

theorem rewordings_inline : ∀ r ∈ rewordings, ∀ w ∈ r.2, w.IsInline := by
  intro r hr w hw
  obtain ⟨hl, hn, -⟩ := rewordings_within_lines r hr w hw
  exact ⟨hl, hn⟩

theorem catalog_within_lines : ∀ found ∈ catalog.toOption, ∀ profile ∈ found.profiles,
    (∀ rule ∈ profile.lineRules, ∀ r ∈ rule.exemptSource, r = returnWord.regex) ∧
    ∀ rule ∈ profile.balanceRules, rule.opening ≠ '\r' ∧ rule.closing ≠ '\r' := by
  unfold catalog tables javascript python java cpp
  repeat rw [String.toList_ofList]
  decide +kernel

theorem silencedBy_crlf {rule : LineRule} (h : ∀ r ∈ rule.exemptSource, r = returnWord.regex)
    (source : Text) : rule.silencedBy (crlf source) = rule.silencedBy source := by
  unfold LineRule.silencedBy
  cases he : rule.exemptSource with
  | none => rfl
  | some r =>
    obtain rfl := h r he
    have hw : returnWord.matcher.WithinLines := Phrase.withinLines (by decide)
    exact hw.occursIn_crlf returnWord.realizes source

/-- With a carriage return before each newline a text has the same findings in the same order. Its
correction is the old one with returns before its newlines, and the reports differ in nothing
else. -/
theorem line_ends_irrelevant :
    ∃ found, catalog = .ok found ∧
      found.ids = ["cpp".toList, "java".toList, "javascript".toList, "python".toList] ∧
      ∀ profile ∈ found.profiles, ∀ text,
        profile.findings (crlf text) = profile.findings text ∧
        profile.correct (crlf text) = crlf (profile.correct text) ∧
        profile.review (crlf text) =
          { profile.review text with corrected := crlf (profile.correct text) } := by
  obtain ⟨found, hc, hids, hprofiles⟩ := exists_catalog
  refine ⟨found, hc, hids, fun profile hm text => ?_⟩
  have hmem : found ∈ catalog.toOption := by
    rw [hc]
    rfl
  obtain ⟨hlines, hbalance⟩ := catalog_within_lines found hmem profile hm
  have hfindings : profile.findings (crlf text) = profile.findings text := by
    have hsilent := fun rule hr => silencedBy_crlf (hlines rule hr) text
    rw [Profile.findings, Profile.lineFindings_crlf hsilent,
      Profile.balanceFindings_crlf hbalance]
    rfl
  have hcorrect : profile.correct (crlf text) = crlf (profile.correct text) := by
    obtain ⟨r, hr, -, hp⟩ := hprofiles profile hm
    unfold Profile.correct
    rw [hp, List.foldl_map, List.foldl_map]
    exact Rewording.applyAll_crlf (rewordings_inline r hr) text
  refine ⟨hfindings, hcorrect, ?_⟩
  unfold Profile.review
  rw [hfindings, hcorrect]
  rfl

theorem line_ends_irrelevant_python :
    ∃ found profile, catalog = .ok found ∧ profile ∈ found.profiles ∧ profile.id = "python".toList ∧
      profile.findings "pritn(x) \r\r\n\r\n".toList = profile.findings "pritn(x) \r\n\n".toList ∧
      profile.correct "pritn(x) \r\r\n\r\n".toList =
        crlf (profile.correct "pritn(x) \r\n\n".toList) := by
  obtain ⟨found, hc, hids, h⟩ := line_ends_irrelevant
  have hm : "python".toList ∈ found.ids := by
    rw [hids]
    decide
  obtain ⟨profile, hp, hid⟩ := List.mem_map.mp hm
  obtain ⟨hfindings, hcorrect, -⟩ := h profile hp "pritn(x) \r\n\n".toList
  exact ⟨found, profile, hc, hp, hid, hfindings, hcorrect⟩

end Shipped

end SnippetReview
