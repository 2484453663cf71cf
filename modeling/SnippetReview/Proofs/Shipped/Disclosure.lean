import SnippetReview.Proofs.Correction.Disclosure
import SnippetReview.Proofs.Shipped.Corrections

namespace SnippetReview

open Pattern Text

namespace Profile

def Discloses (profile : Profile) (ws : List Rewording) : Prop :=
  profile.corrections = ws.map Rewording.correction ∧
    ∀ w ∈ ws, w.phrase.IsMarked ∧ ∃ rule ∈ profile.lineRules, rule.Reveals w.phrase

variable {profile : Profile} {ws : List Rewording} (h : profile.Discloses ws) {text : Text}
include h

theorem Discloses.blank_of_silent (hs : (profile.review text).hasErrors = false) {w : Rewording}
    (hw : w ∈ ws) {before after : Text} (ht : text = before ++ (w.phrase.letters ++ after))
    (hf : w.phrase.FitsAt (lastOr before none) (w.phrase.letters ++ after)) :
    w.phrase.letters.getLast?.any isBlank = true ∧ ∀ x ∈ lineTail after, isBlank x = true := by
  obtain ⟨hmarked, rule, hm, hr⟩ := h.2 w hw
  have hn : ¬ w.phrase.IsHeld after := by
    intro hh
    rw [ht, hasErrors_of_reveals hm hr hmarked hf hh] at hs
    cases hs
  simpa [Phrase.IsHeld] using hn

theorem Discloses.exists_of_changed (hc : profile.correct text ≠ text) :
    ∃ w ∈ ws, ∃ before after, text = before ++ (w.phrase.letters ++ after) ∧
      w.phrase.FitsAt (lastOr before none) (w.phrase.letters ++ after) := by
  by_contra hn
  apply hc
  apply correct_of_isNormal
  intro correction hm
  rw [h.1] at hm
  obtain ⟨w, hw, rfl⟩ := List.mem_map.mp hm
  rw [← Bool.not_eq_true]
  intro ho
  obtain ⟨before, rest, ht, hf⟩ := ((w.occursIn_iff text).mp ho).exists_append
  obtain ⟨after, rfl⟩ := hf.1
  exact hn ⟨w, hw, before, after, ht, hf⟩

end Profile

theorem Pattern.Rewording.exists_of_matchAt {w : Rewording} (hw : w.padded = false) {text : Text}
    {n : Nat} {d : Cursor} (h : w.regex.matchAt ((Cursor.start text).advance n) = some d) :
    text.drop n = w.phrase.letters ++ d.rest ∧
      w.phrase.FitsAt (lastOr (text.take n) none) (w.phrase.letters ++ d.rest) := by
  have hrest : ((Cursor.start text).advance n).rest = text.drop n := Cursor.advance_rest _ _
  rw [w.realizes] at h
  obtain ⟨m, hm, rfl⟩ := Option.map_eq_some_iff.mp h
  simp only [matcher, width?, margin, hw, Bool.false_eq_true, if_false, List.take_zero,
    List.drop_zero, lastOr_nil, Nat.zero_add, Nat.add_zero, Option.ite_none_right_eq_some,
    Option.some.injEq] at hm
  obtain ⟨hf, rfl⟩ := hm
  have hle : n ≤ (Cursor.start text).rest.length := by
    by_contra hn
    have hnil : text.drop n = [] := List.drop_eq_nil_of_le (Nat.le_of_not_le hn)
    rw [hrest, hnil] at hf
    exact w.phrase.not_fitsAt_nil _ hf
  have hd : text.drop n = w.phrase.letters ++ (text.drop n).drop w.phrase.letters.length := by
    obtain ⟨after, ha⟩ := hf.1
    rw [← hrest, ← ha, List.drop_left' rfl]
  rw [Cursor.advance_rest, hrest]
  refine ⟨hd, ?_⟩
  rw [← hd]
  rw [hrest, Cursor.advance_eq hle] at hf
  exact hf

namespace Shipped

theorem catalog_reveals : ∀ found ∈ catalog.toOption, ∀ profile ∈ found.profiles, ∀ r ∈ rewordings,
    profile.id = r.1 → ∀ w ∈ r.2,
      w.phrase.IsMarked ∧ ∃ rule ∈ profile.lineRules, rule.Reveals w.phrase := by
  unfold catalog tables javascript python java cpp
  repeat rw [String.toList_ofList]
  decide +kernel

def spacedTypos : List Text :=
  ["funtion ".toList, "cosnt ".toList, "lte ".toList]

theorem spaced_rewordings : ∀ r ∈ rewordings, ∀ w ∈ r.2,
    w.phrase.letters.getLast?.any isBlank = true →
      r.1 = "javascript".toList ∧ w.phrase.letters ∈ spacedTypos := by
  decide

theorem javascript_unpadded : ∀ r ∈ rewordings, r.1 = "javascript".toList →
    ∀ w ∈ r.2, w.padded = false := by
  decide

/-- A snippet that is corrected has an error, but for misspelled words of the default language with
nothing but blanks after them on their lines, wherever one of its replacements has a match. -/
theorem corrections_reported :
    ∃ found, catalog = .ok found ∧
      found.ids = ["cpp".toList, "java".toList, "javascript".toList, "python".toList] ∧
      ∀ profile ∈ found.profiles, ∀ text, (profile.review text).corrected ≠ text →
        (profile.review text).hasErrors = false →
        profile.id = "javascript".toList ∧
        ∀ correction ∈ profile.corrections, ∀ n d,
          correction.pattern.matchAt ((Cursor.start text).advance n) = some d →
            (∃ typo ∈ spacedTypos, text.drop n = typo ++ d.rest) ∧
            ∀ x ∈ d.rest.takeWhile (· != '\n'), isBlank x = true := by
  obtain ⟨found, hc, hids, hprofiles⟩ := exists_catalog
  refine ⟨found, hc, hids, fun profile hm text hcorrected hsilent => ?_⟩
  obtain ⟨r, hr, hid, hcorrections⟩ := hprofiles profile hm
  have hd : profile.Discloses r.2 :=
    ⟨hcorrections, catalog_reveals found (mem_catalog hc) profile hm r hr hid⟩
  have hjs : r.1 = "javascript".toList := by
    obtain ⟨w, hw, before, after, ht, hf⟩ := hd.exists_of_changed hcorrected
    exact (spaced_rewordings r hr w hw (hd.blank_of_silent hsilent hw ht hf).1).1
  refine ⟨hid.trans hjs, fun correction hcm n d hmatch => ?_⟩
  rw [hcorrections] at hcm
  obtain ⟨w, hw, rfl⟩ := List.mem_map.mp hcm
  obtain ⟨ht, hf⟩ := Rewording.exists_of_matchAt (javascript_unpadded r hr hjs w hw) hmatch
  have hsplit : text = text.take n ++ (w.phrase.letters ++ d.rest) := by
    rw [← ht, List.take_append_drop]
  obtain ⟨hspaced, hblank⟩ := hd.blank_of_silent hsilent hw hsplit hf
  exact ⟨⟨_, (spaced_rewordings r hr w hw hspaced).2, ht⟩, hblank⟩

theorem corrections_reported_at_line_end :
    ∃ found, catalog = .ok found ∧ ∃ profile ∈ found.profiles,
      (profile.review "lte \n".toList).corrected = "let \n".toList ∧
      (profile.review "lte \n".toList).hasErrors = false ∧ profile.id = "javascript".toList := by
  obtain ⟨found, hc, -, h⟩ := corrections_reported
  have hrun : ∀ found ∈ catalog.toOption, ∃ profile ∈ found.profiles,
      (profile.review "lte \n".toList).corrected = "let \n".toList ∧
      (profile.review "lte \n".toList).hasErrors = false := by
    unfold catalog tables javascript python java cpp
    repeat rw [String.toList_ofList]
    decide +kernel
  obtain ⟨profile, hm, hcorrected, hsilent⟩ := hrun found (mem_catalog hc)
  have hne : (profile.review "lte \n".toList).corrected ≠ "lte \n".toList := by
    rw [hcorrected]
    decide
  exact ⟨found, hc, profile, hm, hcorrected, hsilent, (h profile hm _ hne hsilent).1⟩

end Shipped

end SnippetReview
