import SnippetReview.Text

namespace SnippetReview.Text

theorem substituteFrom_eq_drop (name value : Text) (skip : Nat) (text : Text) :
    substituteFrom name value skip text = substitute name value (text.drop skip) := by
  induction skip generalizing text with
  | zero => rfl
  | succ skip ih =>
    cases text with
    | nil => rfl
    | cons c rest => exact ih rest

theorem substitute_append_self {c : Char} {stem : Text} (value rest : Text) :
    substitute (c :: stem) value ((c :: stem) ++ rest) =
      value ++ substitute (c :: stem) value rest := by
  have hp : (c :: stem).isPrefixOf (c :: (stem ++ rest)) = true :=
    List.isPrefixOf_iff_prefix.mpr (List.prefix_append (c :: stem) rest)
  rw [substitute, List.cons_append, substituteFrom, if_pos hp, List.length_cons,
    Nat.add_sub_cancel, substituteFrom_eq_drop, List.drop_left' rfl]

theorem substitute_cons {name : Text} {c : Char} {rest : Text} (h : ¬ name <+: c :: rest)
    (value : Text) : substitute name value (c :: rest) = c :: substitute name value rest := by
  rw [substitute, substituteFrom, if_neg (mt List.isPrefixOf_iff_prefix.mp h)]
  rfl

theorem substitute_append {c : Char} {stem before : Text} (h : c ∉ before) (value rest : Text) :
    substitute (c :: stem) value (before ++ rest) =
      before ++ substitute (c :: stem) value rest := by
  induction before with
  | nil => rfl
  | cons x before ih =>
    have hx : c ≠ x := List.ne_of_not_mem_cons h
    rw [List.cons_append, substitute_cons (by simp [hx]), ih (List.not_mem_of_not_mem_cons h)]
    rfl

theorem prefix_of_prefix_substitute {name value letters text : Text} (hv : value ≠ [])
    (hd : ∀ x ∈ value, x ∉ letters) (h : letters <+: substitute name value text) :
    letters <+: text := by
  induction letters generalizing text with
  | nil => exact List.nil_prefix
  | cons y letters ih =>
    cases text with
    | nil => simp [substitute, substituteFrom] at h
    | cons x rest =>
      by_cases hn : name.isPrefixOf (x :: rest) = true
      · rw [substitute, substituteFrom, if_pos hn] at h
        obtain ⟨z, value, rfl⟩ := List.exists_cons_of_ne_nil hv
        obtain ⟨rfl, -⟩ := List.cons_prefix_cons.mp h
        exact absurd List.mem_cons_self (hd y List.mem_cons_self)
      · rw [substitute_cons (mt List.isPrefixOf_iff_prefix.mpr hn), List.cons_prefix_cons] at h
        refine List.cons_prefix_cons.mpr ⟨h.1, ih (fun z hz hm => ?_) h.2⟩
        exact hd z hz (List.mem_cons_of_mem _ hm)

def fillFrom (values : List (Text × Text)) : Nat → Text → Text
  | _, [] => []
  | skip + 1, _ :: rest => fillFrom values skip rest
  | 0, c :: rest =>
    match values.find? fun v => v.1.isPrefixOf (c :: rest) with
    | some v => v.2 ++ fillFrom values (v.1.length - 1) rest
    | none => c :: fillFrom values 0 rest

def fill (values : List (Text × Text)) (text : Text) : Text :=
  fillFrom values 0 text

theorem fillFrom_eq_drop (values : List (Text × Text)) (skip : Nat) (text : Text) :
    fillFrom values skip text = fill values (text.drop skip) := by
  induction skip generalizing text with
  | zero => rfl
  | succ skip ih =>
    cases text with
    | nil => rfl
    | cons c rest => exact ih rest

theorem fill_of_find? {values : List (Text × Text)} {c : Char} {stem value rest : Text}
    (h : values.find? (fun v => v.1.isPrefixOf ((c :: stem) ++ rest)) = some (c :: stem, value)) :
    fill values ((c :: stem) ++ rest) = value ++ fill values rest := by
  rw [fill, List.cons_append, fillFrom, ← List.cons_append, h]
  simp only [List.length_cons, Nat.add_sub_cancel, fillFrom_eq_drop]
  rw [List.drop_left' rfl]

theorem fill_cons {values : List (Text × Text)} {c : Char} {rest : Text}
    (h : values.find? (fun v => v.1.isPrefixOf (c :: rest)) = none) :
    fill values (c :: rest) = c :: fill values rest := by
  rw [fill, fillFrom, h]
  rfl

-- Two names that begin with the same character, which is not in the first value nor in the rest of
-- the second name.
theorem substitute_substitute {c : Char} {first u v : Text} (second : Text) (hc : c ∉ second)
    (hcu : c ∉ u) (hu : u ≠ []) (hd : ∀ x ∈ u, x ∉ second) (text : Text) :
    substitute (c :: second) v (substitute (c :: first) u text) =
      fill [(c :: first, u), (c :: second, v)] text := by
  induction hn : text.length using Nat.strongRecOn generalizing text with
  | ind n ih =>
    by_cases h₁ : c :: first <+: text
    · obtain ⟨rest, rfl⟩ := h₁
      have hlt : rest.length < n := by
        rw [← hn]
        simp only [List.length_append, List.length_cons]
        omega
      rw [substitute_append_self, substitute_append hcu, ih _ hlt rest rfl, fill_of_find?]
      exact List.find?_cons_of_pos (List.isPrefixOf_iff_prefix.mpr (List.prefix_append _ rest))
    · by_cases h₂ : c :: second <+: text
      · obtain ⟨rest, rfl⟩ := h₂
        have hlt : rest.length < n := by
          rw [← hn]
          simp only [List.length_append, List.length_cons]
          omega
        have hs : substitute (c :: first) u ((c :: second) ++ rest) =
            (c :: second) ++ substitute (c :: first) u rest := by
          rw [List.cons_append] at h₁ ⊢
          rw [substitute_cons h₁, substitute_append hc]
          rfl
        rw [hs, substitute_append_self, ih _ hlt rest rfl, fill_of_find?]
        rw [List.find?_cons_of_neg]
        · exact List.find?_cons_of_pos (List.isPrefixOf_iff_prefix.mpr (List.prefix_append _ rest))
        · exact mt List.isPrefixOf_iff_prefix.mp h₁
      · cases text with
        | nil => rfl
        | cons x rest =>
          have hlt : rest.length < n := by
            rw [← hn]
            exact Nat.lt_succ_self _
          have h₃ : ¬ c :: second <+: x :: substitute (c :: first) u rest := by
            rw [List.cons_prefix_cons]
            rintro ⟨rfl, h⟩
            exact h₂ (List.cons_prefix_cons.mpr ⟨rfl, prefix_of_prefix_substitute hu hd h⟩)
          rw [substitute_cons h₁, substitute_cons h₃, ih _ hlt rest rfl, fill_cons]
          rw [List.find?_cons_of_neg, List.find?_cons_of_neg]
          · rfl
          · exact mt List.isPrefixOf_iff_prefix.mp h₂
          · exact mt List.isPrefixOf_iff_prefix.mp h₁

end SnippetReview.Text
