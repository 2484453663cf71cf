import SnippetReview.Proofs.Report.Wire
import SnippetReview.Proofs.Text.Lines

namespace SnippetReview.Enrichment

open Text

theorem insideFence?_fence (inner : Text) :
    insideFence? (fence ++ (inner ++ fence)) = some inner := by
  have hp : fence.isPrefixOf (fence ++ (inner ++ fence)) = true :=
    List.isPrefixOf_iff_prefix.mpr (List.prefix_append _ _)
  have hs : fence.isSuffixOf (inner ++ fence) = true :=
    List.isSuffixOf_iff_suffix.mpr (List.suffix_append _ _)
  have hl : (inner ++ fence).length - fence.length = inner.length := by simp
  rw [insideFence?, if_pos hp, List.drop_left' rfl]
  simp only [hs, if_true, hl, List.take_left' rfl]

theorem insideFence?_of_not_prefix {text : Text} (h : ¬ fence <+: text) :
    insideFence? text = none := by
  rw [insideFence?, if_neg (mt List.isPrefixOf_iff_prefix.mp h)]

theorem trim_fence (inner : Text) :
    trim (fence ++ (inner ++ fence)) = fence ++ (inner ++ fence) := by
  have hh : (fence ++ (inner ++ fence)).head? = some '\x60' := rfl
  have hl : (fence ++ (inner ++ fence)).getLast? = some '\x60' := by
    rw [← List.append_assoc, List.getLast?_append_of_ne_nil _ (by decide)]
    rfl
  simpa [trimRight] using trim_of_ends hh (by decide) hl (by decide) []

theorem stripFence_congr {raw raw' : Text} (h : trim raw = trim raw') :
    stripFence raw = stripFence raw' := by
  rw [stripFence, stripFence, h]

theorem stripFence_of_not_prefix {text : Text} (h : ¬ fence <+: trim text) :
    stripFence text = trim text := by
  simp only [stripFence, insideFence?_of_not_prefix h]

theorem stripFence_fence {info : Text} (h : '\n' ∉ info) (body : Text) :
    stripFence (fence ++ (info ++ '\n' :: body ++ fence)) = trim body := by
  have hd : (info ++ '\n' :: body).dropWhile (· != '\n') = '\n' :: body := by
    rw [List.dropWhile_append_of_pos]
    · rfl
    · intro x hx
      exact bne_iff_ne.mpr fun he => h (he ▸ hx)
  rw [stripFence, trim_fence]
  simp only [insideFence?_fence, hd]

theorem stripFence_fence_inline {body : Text} (h : '\n' ∉ body) :
    stripFence (fence ++ (body ++ fence)) = trim body := by
  have hd : body.dropWhile (· != '\n') = [] := by
    rw [List.dropWhile_eq_nil_iff]
    intro x hx
    exact bne_iff_ne.mpr fun he => h (he ▸ hx)
  rw [stripFence, trim_fence]
  simp only [insideFence?_fence, hd]

theorem accept_congr {raw raw' : Text} (h : stripFence raw = stripFence raw') :
    accept raw = accept raw' := by
  rw [accept, accept, h]

theorem trim_surrounded {lead trail : Text} (hl : ∀ x ∈ lead, isBlank x = true)
    (ht : ∀ x ∈ trail, isBlank x = true) (text : Text) :
    trim (lead ++ text ++ trail) = trim text := by
  rw [trim_append_blanks ht, trim_blanks_append hl]

/-- An answer that does not begin with a fence has the same outcome between fences as alone,
whatever is said on the opening line and however much blank text is around the fences. On a single
line it may also stand between fences without an opening line. -/
theorem accept_between_fences {lead text trail : Text} (hl : ∀ x ∈ lead, isBlank x = true)
    (ht : ∀ x ∈ trail, isBlank x = true) (hf : ¬ fence <+: trim text) :
    (∀ info, '\n' ∉ info →
      accept (lead ++ (fence ++ (info ++ '\n' :: text ++ fence)) ++ trail) = accept text) ∧
    ('\n' ∉ text → accept (lead ++ (fence ++ (text ++ fence)) ++ trail) = accept text) := by
  constructor
  · intro info hi
    apply accept_congr
    rw [stripFence_congr (trim_surrounded hl ht _), stripFence_fence hi,
      stripFence_of_not_prefix hf]
  · intro hn
    apply accept_congr
    rw [stripFence_congr (trim_surrounded hl ht _), stripFence_fence_inline hn,
      stripFence_of_not_prefix hf]

theorem accept_between_fences_nested :
    let report : Report := .ofFindings [⟨1, fence, .warning⟩] (fence ++ '\n' :: fence)
    accept (" \n".toList ++ (fence ++ ("json\r".toList ++ '\n' :: report.toJson.write ++ fence)) ++
      "\t".toList) = .ok report ∧
    accept ([] ++ (fence ++ (report.toJson.write ++ fence)) ++ "\n".toList) = .ok report ∧
    accept ([] ++ (fence ++ ("\x60".toList ++ '\n' :: "0\x60\x60".toList ++ fence)) ++ []) =
      .error .malformed := by
  intro report
  have hr : accept report.toJson.write = .ok report :=
    accept_toJson_of_agrees ⟨by decide, by decide, by decide⟩
      (report.isConsistent_iff.mp (by decide))
  have hf : ¬ fence <+: trim report.toJson.write := by decide
  have hn : '\n' ∉ report.toJson.write := by decide
  have blanks {text : Text} (h : text.all isBlank = true) : ∀ x ∈ text, isBlank x = true :=
    List.all_eq_true.mp h
  refine ⟨?_, ?_, ?_⟩
  · exact ((accept_between_fences (blanks rfl) (blanks rfl) hf).1 _ (by decide)).trans hr
  · exact ((accept_between_fences (blanks rfl) (blanks rfl) hf).2 hn).trans hr
  · exact ((accept_between_fences (blanks rfl) (blanks rfl) (by decide)).1 _ (by decide)).trans
      (by decide)

end SnippetReview.Enrichment
