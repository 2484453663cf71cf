import Mathlib.Tactic.SplitIfs
import SnippetReview.Json.Quoted

namespace SnippetReview.Json.Quoted

theorem hexValue?_hexDigit {n : Nat} (h : n < 16) : Text.hexValue? (hexDigit n) = some n := by
  revert n
  decide

theorem codeUnit?_control {n : Nat} (h : n < 0x20) :
    codeUnit? '0' '0' (hexDigit (n / 16)) (hexDigit (n % 16)) = some n := by
  revert n
  decide

theorem escapeChar_cases (c : Char) :
    (∃ d, escapeChar c = ['\\', d] ∧ unescape? d = some c ∧ d ≠ 'u') ∨
      (c.toNat < 0x20 ∧ escapeChar c =
        ['\\', 'u', '0', '0', hexDigit (c.toNat / 16), hexDigit (c.toNat % 16)]) ∨
      (c ≠ '"' ∧ c ≠ '\\' ∧ ¬ c.toNat < 0x20 ∧ escapeChar c = [c]) := by
  unfold escapeChar
  split_ifs with h1 h2 h3 h4 h5 h6 h7 h8
  · exact .inl ⟨'"', rfl, by rw [h1]; rfl, by decide⟩
  · exact .inl ⟨'\\', rfl, by rw [h2]; rfl, by decide⟩
  · exact .inl ⟨'b', rfl, by rw [h3]; rfl, by decide⟩
  · exact .inl ⟨'t', rfl, by rw [h4]; rfl, by decide⟩
  · exact .inl ⟨'n', rfl, by rw [h5]; rfl, by decide⟩
  · exact .inl ⟨'f', rfl, by rw [h6]; rfl, by decide⟩
  · exact .inl ⟨'r', rfl, by rw [h7]; rfl, by decide⟩
  · exact .inr (.inl ⟨h8, rfl⟩)
  · exact .inr (.inr ⟨h1, h2, h8, rfl⟩)

theorem codesFrom_escapeChar (found : List Nat) (c : Char) (rest : Text) :
    codesFrom found (escapeChar c ++ rest) = codesFrom (c.toNat :: found) rest := by
  rcases escapeChar_cases c with ⟨d, he, hd, hu⟩ | ⟨hc, he⟩ | ⟨-, hb, -, he⟩
  · rw [he]
    simp [codesFrom, hd, hu]
  · rw [he]
    simp [codesFrom, codeUnit?_control hc]
  · rw [he]
    simp [codesFrom, hb]

theorem codesFrom_escape (found : List Nat) (text : Text) :
    codesFrom found (escape text) = some (found.reverse ++ text.map Char.toNat) := by
  induction text generalizing found with
  | nil => simp [escape, codesFrom]
  | cons c rest ih =>
    have he : escape (c :: rest) = escapeChar c ++ escape rest := List.flatMap_cons
    rw [he, codesFrom_escapeChar, ih]
    simp

theorem not_half (c : Char) : isHighHalf c.toNat = false ∧ isLowHalf c.toNat = false := by
  have hv : c.toNat < 0xD800 ∨ 0xDFFF < c.toNat ∧ c.toNat < 0x110000 := c.valid
  simp only [isHighHalf, isLowHalf, Bool.and_eq_false_iff, decide_eq_false_iff_not]
  omega

theorem joinFrom_map_toNat (found text : Text) :
    joinFrom found (text.map Char.toNat) = some (found.reverse ++ text) := by
  induction text generalizing found with
  | nil => simp [joinFrom]
  | cons c rest ih =>
    obtain ⟨hh, hl⟩ := not_half c
    cases rest with
    | nil => simp [joinFrom, hh, hl, Char.ofNat_toNat]
    | cons d rest =>
      have hd := ih (c :: found)
      simpa [joinFrom, hh, hl, Char.ofNat_toNat] using hd

theorem decode_escape (text : Text) : decode (escape text) = some text := by
  rw [decode, codesFrom_escape, Option.bind_some, List.reverse_nil, List.nil_append,
    joinFrom_map_toNat, List.reverse_nil, List.nil_append]

end SnippetReview.Json.Quoted
