import Mathlib.Data.List.Basic
import Mathlib.Data.List.TakeWhile
import SnippetReview.Proofs.Text.LineEnds

namespace SnippetReview.Text

/-! ### Lines -/

theorem linesFrom_done (done : List Text) (line text : Text) :
    linesFrom done line text = done.reverse ++ linesFrom [] line text := by
  induction text generalizing done line with
  | nil =>
    rw [linesFrom, linesFrom]
    split <;> simp
  | cons c rest ih =>
    rw [linesFrom, linesFrom]
    split
    · rw [ih (closeLine line :: done), ih [closeLine line]]
      simp
    · exact ih done (c :: line)

theorem isPrefix_closeLine (line : Text) : closeLine line.reverse <+: line := by
  unfold closeLine
  split
  · rename_i rest he
    rw [← List.reverse_reverse line, he, List.reverse_cons]
    exact List.prefix_append _ _
  · simp only [List.reverse_reverse, List.prefix_rfl]

theorem linesFrom_newline (line rest : Text) :
    linesFrom [] line ('\n' :: rest) = closeLine line :: lines rest :=
  linesFrom_done [closeLine line] [] rest

theorem linesFrom_append_of_not_mem {before : Text} (h : '\n' ∉ before) (line rest : Text) :
    linesFrom [] line (before ++ rest) = linesFrom [] (before.reverse ++ line) rest := by
  induction before generalizing line with
  | nil => rfl
  | cons c before ih =>
    have hc : (c == '\n') = false := beq_eq_false_iff_ne.mpr (Ne.symm (List.ne_of_not_mem_cons h))
    rw [List.cons_append, linesFrom, hc, if_neg Bool.false_ne_true,
      ih (List.not_mem_of_not_mem_cons h)]
    simp

theorem linesFrom_append_newline (line before rest : Text) :
    linesFrom [] line (before ++ '\n' :: rest) =
      linesFrom [] line (before ++ ['\n']) ++ lines rest := by
  induction before generalizing line with
  | nil =>
    rw [List.nil_append, List.nil_append, linesFrom_newline, linesFrom_newline]
    rfl
  | cons c before ih =>
    by_cases hc : c = '\n'
    · subst hc
      rw [List.cons_append, List.cons_append, linesFrom_newline, linesFrom_newline, lines, lines,
        ih [], List.cons_append]
    · have hb : (c == '\n') = false := beq_eq_false_iff_ne.mpr hc
      rw [List.cons_append, List.cons_append, linesFrom, linesFrom, hb]
      exact ih (c :: line)

theorem lines_of_not_mem {text : Text} (h : '\n' ∉ text) (hne : text ≠ []) :
    lines text = [text] := by
  have hl := linesFrom_append_of_not_mem h [] []
  simpa [lines, linesFrom, hne] using hl

theorem lines_cons {line : Text} (h : '\n' ∉ line) (rest : Text) :
    lines (line ++ '\n' :: rest) = closeLine line.reverse :: lines rest := by
  rw [lines, linesFrom_append_of_not_mem h, List.append_nil, linesFrom_newline]

theorem lines_append (before rest : Text) :
    lines (before ++ '\n' :: rest) = lines (before ++ ['\n']) ++ lines rest :=
  linesFrom_append_newline [] before rest

/-! ### The line around a place -/

def lineTail (rest : Text) : Text :=
  rest.takeWhile (· != '\n')

theorem newline_not_mem_lineTail (rest : Text) : '\n' ∉ lineTail rest := by
  intro h
  simpa using List.all_eq_true.mp List.all_takeWhile _ h

theorem lineTail_append {before : Text} (h : '\n' ∉ before) (rest : Text) :
    lineTail (before ++ rest) = before ++ lineTail rest := by
  apply List.takeWhile_append_of_pos
  intro c hc
  rw [bne_iff_ne]
  rintro rfl
  exact h hc

theorem eq_lineTail_append (rest : Text) :
    rest = lineTail rest ∨ ∃ later, rest = lineTail rest ++ '\n' :: later := by
  by_cases h : '\n' ∈ rest
  · obtain ⟨first, later, rfl, hf⟩ := List.eq_append_cons_of_mem h
    rw [lineTail_append hf]
    exact .inr ⟨later, by simp [lineTail]⟩
  · left
    simpa [lineTail] using (lineTail_append h []).symm

def IsLineHead (before head : Text) : Prop :=
  '\n' ∉ head ∧ (before = head ∨ ∃ earlier, before = earlier ++ '\n' :: head)

theorem exists_isLineHead (before : Text) : ∃ head, IsLineHead before head := by
  by_cases h : '\n' ∈ before
  · obtain ⟨last, earlier, he, hl⟩ := List.eq_append_cons_of_mem (List.mem_reverse.mpr h)
    refine ⟨last.reverse, by simpa using hl, .inr ⟨earlier.reverse, ?_⟩⟩
    simpa using congrArg List.reverse he
  · exact ⟨before, h, .inl rfl⟩

theorem exists_first_line {head rest : Text} (h : '\n' ∉ head) (hne : head ++ lineTail rest ≠ []) :
    ∃ line ∈ lines (head ++ rest), trim line = trim (head ++ lineTail rest) := by
  have hin : '\n' ∉ head ++ lineTail rest := by simp [h, newline_not_mem_lineTail]
  rcases eq_lineTail_append rest with he | ⟨later, he⟩
  · refine ⟨head ++ lineTail rest, ?_, rfl⟩
    rw [← he] at hin hne ⊢
    rw [lines_of_not_mem hin hne]
    exact List.mem_singleton.mpr rfl
  · refine ⟨closeLine (head ++ lineTail rest).reverse, ?_, ?_⟩
    · have hl := lines_cons hin later
      rw [List.append_assoc, ← he] at hl
      rw [hl]
      exact List.mem_cons_self
    · rw [trim_closeLine, List.reverse_reverse]

theorem IsLineHead.exists_line {before head rest : Text} (h : IsLineHead before head)
    (hne : head ++ lineTail rest ≠ []) :
    ∃ line ∈ lines (before ++ rest), trim line = trim (head ++ lineTail rest) := by
  obtain ⟨hn, rfl | ⟨earlier, rfl⟩⟩ := h
  · exact exists_first_line hn hne
  · obtain ⟨line, hm, ht⟩ := exists_first_line hn hne
    refine ⟨line, ?_, ht⟩
    rw [List.append_assoc, List.cons_append, lines_append]
    exact List.mem_append_right _ hm

/-! ### Trimming -/

theorem trimLeft_append {x : Char} (hx : isBlank x = false) (head rest : Text) :
    trimLeft (head ++ x :: rest) = trimLeft head ++ x :: rest := by
  unfold trimLeft
  rw [List.dropWhile_append]
  split
  · rename_i he
    rw [List.isEmpty_iff.mp he, List.dropWhile_cons_of_neg (by simp [hx])]
    rfl
  · rfl

theorem trimRight_cons {x : Char} (hx : isBlank x = false) (rest : Text) :
    trimRight (x :: rest) = x :: trimRight rest := by
  have h := trimLeft_append hx rest.reverse []
  simpa [trimLeft, trimRight] using h

theorem trimRight_append {rest : Text} (h : trimRight rest ≠ []) (before : Text) :
    trimRight (before ++ rest) = before ++ trimRight rest := by
  have hd : (List.dropWhile isBlank rest.reverse).isEmpty = false := by
    simpa [trimRight] using h
  simp [trimRight, List.dropWhile_append, hd]

theorem trimRight_append_of_getLast? {before : Text} {x : Char} (hl : before.getLast? = some x)
    (hx : isBlank x = false) (rest : Text) :
    trimRight (before ++ rest) = before ++ trimRight rest := by
  obtain ⟨start, rfl⟩ := List.getLast?_eq_some_iff.mp hl
  have hc := trimRight_cons hx rest
  rw [List.append_assoc, List.singleton_append, trimRight_append (by simp [hc]), hc]
  simp

theorem trim_append {text : Text} {x : Char} (hh : text.head? = some x) (hx : isBlank x = false)
    (head : Text) : trim (head ++ text) = trimLeft head ++ trimRight text := by
  obtain ⟨rest, rfl⟩ := List.head?_eq_some_iff.mp hh
  rw [trim, trimLeft_append hx, trimRight_append]
  rw [trimRight_cons hx]
  exact List.cons_ne_nil _ _

theorem trim_of_ends {text : Text} {x y : Char} (hh : text.head? = some x) (hx : isBlank x = false)
    (hl : text.getLast? = some y) (hy : isBlank y = false) (rest : Text) :
    trim (text ++ rest) = text ++ trimRight rest := by
  have hhead : (text ++ rest).head? = some x := by rw [List.head?_append, hh]; rfl
  calc trim (text ++ rest) = trimRight (text ++ rest) := trim_append hhead hx []
    _ = text ++ trimRight rest := trimRight_append_of_getLast? hl hy rest

theorem trim_blanks_append {lead : Text} (h : ∀ x ∈ lead, isBlank x = true) (text : Text) :
    trim (lead ++ text) = trim text := by
  rw [trim, trim, trimLeft, trimLeft, List.dropWhile_append_of_pos h]

theorem trim_append_blanks {trail : Text} (h : ∀ x ∈ trail, isBlank x = true) (text : Text) :
    trim (text ++ trail) = trim text := by
  induction trail generalizing text with
  | nil => rw [List.append_nil]
  | cons c trail ih =>
    obtain ⟨hc, ht⟩ := List.forall_mem_cons.mp h
    rw [List.append_cons, ih ht, trim_concat hc]

theorem all_isBlank_of_trimLeft {text : Text} (h : trimLeft text = []) :
    ∀ x ∈ text, isBlank x = true := by
  rw [trimLeft, List.dropWhile_eq_nil_iff] at h
  exact h

theorem all_isBlank_of_trimRight {text : Text} (h : trimRight text = []) :
    ∀ x ∈ text, isBlank x = true := by
  have hl : trimLeft text.reverse = [] := List.reverse_eq_nil_iff.mp h
  exact fun x hx => all_isBlank_of_trimLeft hl x (List.mem_reverse.mpr hx)

theorem getLast?_trimLeft {text : Text} (h : trimLeft text ≠ []) :
    (trimLeft text).getLast? = text.getLast? := by
  obtain ⟨before, hb⟩ : trimLeft text <:+ text := List.dropWhile_suffix _
  calc (trimLeft text).getLast? = (before ++ trimLeft text).getLast? :=
        (List.getLast?_append_of_ne_nil before h).symm
    _ = text.getLast? := by rw [hb]

theorem head?_trimRight {text : Text} (h : trimRight text ≠ []) :
    (trimRight text).head? = text.head? := by
  have hr : trimLeft text.reverse ≠ [] := by simpa [trimRight, trimLeft] using h
  have hl := getLast?_trimLeft hr
  simpa [trimRight, trimLeft] using hl

end SnippetReview.Text
