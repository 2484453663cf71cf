import SnippetReview.Text

namespace SnippetReview.Text

def crlf (text : Text) : Text :=
  text.flatMap fun c => if c = '\n' then ['\r', '\n'] else [c]

theorem crlf_nil : crlf [] = [] := rfl

theorem crlf_newline (rest : Text) : crlf ('\n' :: rest) = '\r' :: '\n' :: crlf rest := rfl

theorem crlf_cons {c : Char} (hc : c ≠ '\n') (rest : Text) : crlf (c :: rest) = c :: crlf rest := by
  simp [crlf, hc]

theorem crlf_append (s t : Text) : crlf (s ++ t) = crlf s ++ crlf t :=
  List.flatMap_append

theorem crlf_of_not_mem {text : Text} (h : '\n' ∉ text) : crlf text = text := by
  induction text with
  | nil => rfl
  | cons c rest ih =>
    have hc : c ≠ '\n' := Ne.symm (List.ne_of_not_mem_cons h)
    rw [crlf_cons hc, ih (List.not_mem_of_not_mem_cons h)]

theorem count_crlf {c : Char} (hc : c ≠ '\r') (text : Text) :
    (crlf text).count c = text.count c := by
  induction text with
  | nil => rfl
  | cons x rest ih =>
    by_cases hx : x = '\n'
    · subst hx
      rw [crlf_newline, List.count_cons_of_ne (Ne.symm hc), List.count_cons, List.count_cons, ih]
    · rw [crlf_cons hx, List.count_cons, List.count_cons, ih]

theorem trimRight_concat {c : Char} (hc : isBlank c = true) (line : Text) :
    trimRight (line ++ [c]) = trimRight line := by
  simp [trimRight, hc]

theorem trim_concat {c : Char} (hc : isBlank c = true) (line : Text) :
    trim (line ++ [c]) = trim line := by
  unfold trim trimLeft
  rw [List.dropWhile_append]
  split
  · rename_i he
    rw [List.isEmpty_iff.mp he]
    simp [hc]
  · exact trimRight_concat hc _

theorem trim_closeLine (line : Text) : trim (closeLine line) = trim line.reverse := by
  unfold closeLine
  split
  · rw [List.reverse_cons, trim_concat (by decide)]
  · rfl

theorem trim_linesFrom_crlf (text line : Text) {done done' : List Text}
    (h : done'.map trim = done.map trim) :
    (linesFrom done' line (crlf text)).map trim = (linesFrom done line text).map trim := by
  induction text generalizing done done' line with
  | nil =>
    rw [crlf_nil, linesFrom, linesFrom]
    split
    · rw [List.map_reverse, h, List.map_reverse]
    · simp [h]
  | cons c rest ih =>
    by_cases hc : c = '\n'
    · -- The line that ends here has one more carriage return, which is dropped.
      subst hc
      have hl :
          (closeLine ('\r' :: line) :: done').map trim = (closeLine line :: done).map trim := by
        rw [List.map_cons, List.map_cons, h, trim_closeLine line]
        rfl
      exact ih [] hl
    · have hb : (c == '\n') = false := beq_eq_false_iff_ne.mpr hc
      rw [crlf_cons hc, linesFrom, linesFrom, hb]
      exact ih (c :: line) h

theorem trim_lines_crlf (text : Text) : (lines (crlf text)).map trim = (lines text).map trim :=
  trim_linesFrom_crlf text [] rfl

def IsInline (text : Text) : Prop :=
  '\n' ∉ text ∧ '\r' ∉ text

instance (text : Text) : Decidable (IsInline text) :=
  inferInstanceAs (Decidable (_ ∧ _))

theorem crlf_append_of_not_mem {before : Text} (h : '\n' ∉ before) (after : Text) :
    crlf (before ++ after) = before ++ crlf after := by
  rw [crlf_append, crlf_of_not_mem h]

theorem prefix_crlf_iff {letters : Text} (h : IsInline letters) {text : Text} :
    letters <+: crlf text ↔ letters <+: text := by
  induction letters generalizing text with
  | nil => simp
  | cons y letters ih =>
    have hn : '\n' ≠ y := List.ne_of_not_mem_cons h.1
    have hr : '\r' ≠ y := List.ne_of_not_mem_cons h.2
    have hs : IsInline letters :=
      ⟨List.not_mem_of_not_mem_cons h.1, List.not_mem_of_not_mem_cons h.2⟩
    cases text with
    | nil => rfl
    | cons x rest =>
      by_cases hx : x = '\n'
      · subst hx
        simp [crlf_newline, Ne.symm hn, Ne.symm hr]
      · rw [crlf_cons hx, List.cons_prefix_cons, List.cons_prefix_cons, ih hs]

theorem take_crlf {text : Text} {n : Nat} (h : '\n' ∉ text.take n) (hn : n ≤ text.length) :
    (crlf text).take n = text.take n ∧ (crlf text).drop n = crlf (text.drop n) := by
  have hl : (text.take n).length = n := List.length_take_of_le hn
  have he : crlf text = text.take n ++ crlf (text.drop n) := by
    rw [← crlf_append_of_not_mem h, List.take_append_drop]
  rw [he]
  exact ⟨List.take_left' hl, List.drop_left' hl⟩

end SnippetReview.Text
