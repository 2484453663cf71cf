import SnippetReview.Proofs.Text.Pieces

/-!
Functions on texts that work on the pieces between separators one by one. One that does so for both
characters that lines end in takes the lines of a text to the lines of what it makes of it.
-/

namespace SnippetReview.Text

/-- Each piece between separators is changed on its own, and no separator is written. -/
structure Piecewise (separator : Char) (f : Text → Text) : Prop where
  append : ∀ before after, f (before ++ separator :: after) = f before ++ separator :: f after
  not_mem : ∀ text, separator ∉ text → separator ∉ f text

namespace Piecewise

theorem refl (separator : Char) : Piecewise separator fun text => text :=
  ⟨fun _ _ => rfl, fun _ h => h⟩

theorem comp {separator : Char} {f g : Text → Text} (hg : Piecewise separator g)
    (hf : Piecewise separator f) : Piecewise separator fun text => g (f text) where
  append before after := by rw [hf.append, hg.append]
  not_mem text h := hg.not_mem _ (hf.not_mem text h)

variable {f : Text → Text} (hr : Piecewise '\r' f) (hnil : ∀ text, f text = [] ↔ text = [])
include hr hnil

theorem getLast?_ne_return {line : Text} (h : line.getLast? ≠ some '\r') :
    (f line).getLast? ≠ some '\r' := by
  by_cases hm : '\r' ∈ line
  · -- The characters after the last return are not changed to nothing or to others with returns.
    obtain ⟨last, earlier, he, hl⟩ := List.eq_append_cons_of_mem (List.mem_reverse.mpr hm)
    have hline : line = earlier.reverse ++ '\r' :: last.reverse := by
      simpa using congrArg List.reverse he
    have hlast : last.reverse ≠ [] := by
      intro hn
      rw [hline, hn, List.getLast?_concat] at h
      exact h rfl
    have hne : f last.reverse ≠ [] := mt (hnil _).mp hlast
    rw [hline, hr.append, List.append_cons, List.getLast?_append_of_ne_nil _ hne]
    intro hg
    exact hr.not_mem last.reverse (by simpa using hl) (List.mem_of_getLast? hg)
  · exact fun hg => hr.not_mem line hm (List.mem_of_getLast? hg)

theorem closeLine_reverse (line : Text) :
    closeLine (f line).reverse = f (closeLine line.reverse) := by
  have keep {line : Text} (h : line.getLast? ≠ some '\r') : closeLine line.reverse = line := by
    unfold closeLine
    split
    · rename_i rest he
      rw [← List.head?_reverse, he] at h
      exact absurd rfl h
    · exact List.reverse_reverse line
  by_cases h : line.getLast? = some '\r'
  · obtain ⟨start, rfl⟩ := List.getLast?_eq_some_iff.mp h
    have hn : f [] = [] := (hnil []).mpr rfl
    rw [hr.append, hn]
    simp [closeLine]
  · rw [keep h, keep (getLast?_ne_return hr hnil h)]

theorem lines_eq_map (hn : Piecewise '\n' f) (text : Text) :
    lines (f text) = (lines text).map f := by
  induction text using lines_induction with
  | last text h =>
    by_cases hne : text = []
    · subst hne
      rw [(hnil []).mpr rfl]
      rfl
    · rw [lines_of_not_mem (hn.not_mem text h) (mt (hnil text).mp hne), lines_of_not_mem h hne]
      rfl
  | cons first rest hf ih =>
    rw [hn.append, lines_cons (hn.not_mem first hf), lines_cons hf, ih, List.map_cons,
      closeLine_reverse hr hnil]

end Piecewise

end SnippetReview.Text
