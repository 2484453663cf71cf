import Mathlib.Data.List.Basic
import SnippetReview.Text

namespace SnippetReview.Text

theorem units16_pos (c : Char) : 0 < units16 c := by
  rw [units16]
  split <;> decide

theorem length16_nil : length16 [] = 0 := rfl

theorem length16_cons (c : Char) (text : Text) :
    length16 (c :: text) = units16 c + length16 text := by
  have h (n : Nat) : text.foldl (fun n c => n + units16 c) n = n + length16 text := by
    rw [length16]
    induction text generalizing n with
    | nil => rfl
    | cons d text ih => rw [List.foldl_cons, List.foldl_cons, ih, ih (0 + _)]; omega
  rw [length16, List.foldl_cons, h, Nat.zero_add]

theorem length16_append (before after : Text) :
    length16 (before ++ after) = length16 before + length16 after := by
  induction before with
  | nil => rw [List.nil_append, length16_nil, Nat.zero_add]
  | cons c before ih => rw [List.cons_append, length16_cons, length16_cons, ih, Nat.add_assoc]

theorem length16_reverse (text : Text) : length16 text.reverse = length16 text := by
  induction text with
  | nil => rfl
  | cons c text ih =>
    rw [List.reverse_cons, length16_append, ih, length16_cons, length16_cons, length16_nil,
      Nat.add_zero, Nat.add_comm]

theorem length_le_length16 (text : Text) : text.length ≤ length16 text := by
  induction text with
  | nil => exact Nat.le_refl _
  | cons c text ih =>
    have hc := units16_pos c
    rw [List.length_cons, length16_cons]
    omega

theorem length16_mono {before text : Text} (h : before <+: text) :
    length16 before ≤ length16 text := by
  obtain ⟨rest, rfl⟩ := h
  rw [length16_append]
  exact Nat.le_add_right _ _

def chars? : Nat → Text → Option Nat
  | 0, _ => some 0
  | _ + 1, [] => none
  | n + 1, c :: rest =>
    if units16 c ≤ n + 1 then (chars? (n + 1 - units16 c) rest).map (· + 1) else none

theorem chars?_length16 (before after : Text) :
    chars? (length16 before) (before ++ after) = some before.length := by
  induction before with
  | nil => rw [length16_nil, chars?, List.length_nil]
  | cons c before ih =>
    obtain ⟨n, hn⟩ := Nat.exists_eq_add_of_lt (units16_pos c)
    have he : length16 (c :: before) = length16 before + n + 1 := by
      rw [length16_cons]
      omega
    have hd : length16 before + n + 1 - units16 c = length16 before := by omega
    rw [he, List.cons_append, chars?, if_pos (by omega), hd, ih]
    rfl

theorem le_length_of_chars? {units n : Nat} {text : Text} (h : chars? units text = some n) :
    n ≤ text.length := by
  induction text generalizing units n with
  | nil =>
    cases units with
    | zero => cases h; exact Nat.le_refl _
    | succ => cases h
  | cons c text ih =>
    cases units with
    | zero => cases h; exact Nat.zero_le _
    | succ =>
      obtain ⟨-, h⟩ := Option.ite_none_right_eq_some.mp h
      obtain ⟨k, hk, rfl⟩ := Option.map_eq_some_iff.mp h
      exact Nat.succ_le_succ (ih hk)

end SnippetReview.Text
