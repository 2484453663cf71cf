import SnippetReview.Proofs.Text.Lines

namespace SnippetReview.Text

theorem pieces_cons_self (separator : Char) (rest : Text) :
    pieces separator (separator :: rest) = [] :: pieces separator rest := by
  rw [pieces, List.foldr_cons, if_pos (beq_self_eq_true separator)]
  rfl

theorem pieces_ne_nil (separator : Char) (text : Text) : pieces separator text ≠ [] := by
  cases text with
  | nil => exact List.cons_ne_nil _ _
  | cons c rest =>
    rw [pieces, List.foldr_cons]
    split
    · exact List.cons_ne_nil _ _
    · split <;> exact List.cons_ne_nil _ _

theorem pieces_cons_of_ne {separator c : Char} (hc : c ≠ separator) (rest : Text) :
    ∃ piece later, pieces separator rest = piece :: later ∧
      pieces separator (c :: rest) = (c :: piece) :: later := by
  obtain ⟨piece, later, hp⟩ := List.exists_cons_of_ne_nil (pieces_ne_nil separator rest)
  have hb : (c == separator) = false := beq_eq_false_iff_ne.mpr hc
  refine ⟨piece, later, hp, ?_⟩
  rw [pieces] at hp
  rw [pieces, List.foldr_cons, hb, hp]
  rfl

theorem pieces_of_not_mem {separator : Char} {text : Text} (h : separator ∉ text) :
    pieces separator text = [text] := by
  induction text with
  | nil => rfl
  | cons c rest ih =>
    obtain ⟨piece, later, hp, he⟩ := pieces_cons_of_ne (Ne.symm (List.ne_of_not_mem_cons h)) rest
    rw [ih (List.not_mem_of_not_mem_cons h)] at hp
    cases hp
    exact he

theorem pieces_append {separator : Char} {first : Text} (h : separator ∉ first) (rest : Text) :
    pieces separator (first ++ separator :: rest) = first :: pieces separator rest := by
  induction first with
  | nil => exact pieces_cons_self separator rest
  | cons c first ih =>
    obtain ⟨piece, later, hp, he⟩ :=
      pieces_cons_of_ne (Ne.symm (List.ne_of_not_mem_cons h)) (first ++ separator :: rest)
    rw [ih (List.not_mem_of_not_mem_cons h)] at hp
    cases hp
    exact he

def linePieces (text : Text) : List Text :=
  if (pieces '\n' text).getLast? = some [] then (pieces '\n' text).dropLast else pieces '\n' text

theorem linePieces_of_not_mem {text : Text} (h : '\n' ∉ text) (hne : text ≠ []) :
    linePieces text = [text] := by
  rw [linePieces, pieces_of_not_mem h, if_neg (by simpa using hne)]

theorem linePieces_append {first : Text} (h : '\n' ∉ first) (rest : Text) :
    linePieces (first ++ '\n' :: rest) = first :: linePieces rest := by
  have hne := pieces_ne_nil '\n' rest
  rw [linePieces, linePieces, pieces_append h, List.dropLast_cons_of_ne_nil hne,
    List.getLast?_cons_of_ne_nil hne]
  split <;> rfl

theorem lines_induction {P : Text → Prop} (last : ∀ text, '\n' ∉ text → P text)
    (cons : ∀ first rest, '\n' ∉ first → P rest → P (first ++ '\n' :: rest)) (text : Text) :
    P text := by
  induction hn : text.length using Nat.strongRecOn generalizing text with
  | ind n ih =>
    by_cases h : '\n' ∈ text
    · obtain ⟨first, rest, rfl, hf⟩ := List.eq_append_cons_of_mem h
      have hlt : rest.length < n := by
        rw [← hn]
        simp only [List.length_append, List.length_cons]
        omega
      exact cons first rest hf (ih _ hlt rest rfl)
    · exact last text h

theorem lines_ne_nil {text : Text} (h : text ≠ []) : lines text ≠ [] := by
  induction text using lines_induction with
  | last text hn =>
    rw [lines_of_not_mem hn h]
    exact List.cons_ne_nil _ _
  | cons first rest hf _ =>
    rw [lines_cons hf]
    exact List.cons_ne_nil _ _

theorem trim_lines (text : Text) : (lines text).map trim = (linePieces text).map trim := by
  induction text using lines_induction with
  | last text h =>
    by_cases hne : text = []
    · subst hne
      rfl
    · rw [lines_of_not_mem h hne, linePieces_of_not_mem h hne]
  | cons first rest hf ih =>
    rw [lines_cons hf, linePieces_append hf, List.map_cons, List.map_cons, trim_closeLine,
      List.reverse_reverse, ih]

theorem exists_append_of_mem_linePieces {piece text : Text} (h : piece ∈ linePieces text) :
    ∃ before after, text = before ++ (piece ++ after) ∧ (∀ x ∈ before.getLast?, x = '\n') ∧
      ∀ x ∈ after.head?, x = '\n' := by
  induction text using lines_induction with
  | last text hn =>
    have hne : text ≠ [] := by
      rintro rfl
      cases h
    rw [linePieces_of_not_mem hn hne] at h
    obtain rfl := List.mem_singleton.mp h
    exact ⟨[], [], by simp, nofun, nofun⟩
  | cons first rest hf ih =>
    rw [linePieces_append hf] at h
    rcases List.mem_cons.mp h with rfl | h
    · exact ⟨[], '\n' :: rest, rfl, nofun, by simp⟩
    · obtain ⟨before, after, rfl, hb, ha⟩ := ih h
      refine ⟨first ++ '\n' :: before, after, by simp, ?_, ha⟩
      cases before with
      | nil => simp
      | cons y before => simpa [List.getLast?_append] using hb

theorem exists_append_trim (text : Text) : ∃ lead trail, text = lead ++ (trim text ++ trail) ∧
    (∀ x ∈ lead, isBlank x = true) ∧ ∀ x ∈ trail, isBlank x = true := by
  have left (text : Text) : text.takeWhile isBlank ++ trimLeft text = text :=
    List.takeWhile_append_dropWhile
  have right := congrArg List.reverse (left (trimLeft text).reverse)
  rw [List.reverse_append, List.reverse_reverse] at right
  refine ⟨text.takeWhile isBlank, ((trimLeft text).reverse.takeWhile isBlank).reverse, ?_, ?_, ?_⟩
  · exact (left text).symm.trans (congrArg _ right.symm)
  · exact fun x hx => List.all_eq_true.mp List.all_takeWhile x hx
  · exact fun x hx => List.all_eq_true.mp List.all_takeWhile x (List.mem_reverse.mp hx)

theorem exists_append_of_mem_lines {line text : Text} (h : line ∈ lines text) :
    ∃ before after, text = before ++ (trim line ++ after) ∧
      (∀ x ∈ before.getLast?, isBlank x = true) ∧ ∀ x ∈ after.head?, isBlank x = true := by
  have ht : trim line ∈ (linePieces text).map trim := by
    rw [← trim_lines]
    exact List.mem_map_of_mem h
  obtain ⟨piece, hp, he⟩ := List.mem_map.mp ht
  obtain ⟨before, after, rfl, hb, ha⟩ := exists_append_of_mem_linePieces hp
  obtain ⟨lead, trail, hpiece, hlead, htrail⟩ := exists_append_trim piece
  rw [he] at hpiece
  refine ⟨before ++ lead, trail ++ after, by simp [hpiece], ?_, ?_⟩
  · intro x hx
    rw [List.getLast?_append, Option.mem_def, Option.or_eq_some_iff] at hx
    rcases hx with hx | ⟨-, hx⟩
    · exact hlead x (List.mem_of_getLast? hx)
    · obtain rfl := hb x hx
      decide
  · intro x hx
    rw [List.head?_append, Option.mem_def, Option.or_eq_some_iff] at hx
    rcases hx with hx | ⟨-, hx⟩
    · exact htrail x (List.mem_of_head? hx)
    · obtain rfl := ha x hx
      decide

end SnippetReview.Text
