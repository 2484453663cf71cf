import Mathlib.Tactic.SplitIfs
import SnippetReview.Utf8

namespace SnippetReview.Utf8

theorem char?_of_eq {least n : Nat} {c : Char} (hn : n = c.toNat) (h : least ≤ c.toNat) :
    char? least n = some c := by
  subst hn
  have hv : c.toNat.isValidChar := c.valid
  rw [char?, dif_pos hv, if_pos h]
  rfl

theorem toNat_ofNat {n : Nat} (h : n < 256) : (UInt8.ofNat n).toNat = n := by
  rw [UInt8.toNat_ofNat']
  omega

theorem trail?_ofNat {n : Nat} (h : n < 64) : trail? (UInt8.ofNat (n + 128)) = some n := by
  rw [trail?, toNat_ofNat (by omega)]
  simp
  omega

/-! ### Characters by their number of bytes -/

section

variable {a b c d : Nat} {rest : List UInt8}

theorem next?_one (ha : a < 128) :
    next? (UInt8.ofNat a :: rest) = (char? 0 a).map fun found => (found, rest) := by
  unfold next?
  simp only [toNat_ofNat (show a < 256 by omega), ha, if_true]

theorem next?_two (ha : a < 32) (hb : b < 64) :
    next? (UInt8.ofNat (a + 192) :: UInt8.ofNat (b + 128) :: rest) =
      (char? 0x80 (a * 64 + b)).map fun found => (found, rest) := by
  rw [next?, toNat_ofNat (by omega)]
  simp only
  rw [if_neg (by omega), if_neg (by omega), if_pos (by omega), trail?_ofNat hb]
  simp only [Nat.add_sub_cancel, Option.bind_eq_bind, Option.bind_some]
  exact Option.map_eq_bind.symm

theorem next?_three (ha : a < 16) (hb : b < 64) (hc : c < 64) :
    next? (UInt8.ofNat (a + 224) :: UInt8.ofNat (b + 128) :: UInt8.ofNat (c + 128) :: rest) =
      (char? 0x800 ((a * 64 + b) * 64 + c)).map fun found => (found, rest) := by
  rw [next?, toNat_ofNat (by omega)]
  simp only
  rw [if_neg (by omega), if_neg (by omega), if_neg (by omega), if_pos (by omega),
    trail?_ofNat hb, trail?_ofNat hc]
  simp only [Nat.add_sub_cancel, Option.bind_eq_bind, Option.bind_some]
  exact Option.map_eq_bind.symm

theorem next?_four (ha : a < 8) (hb : b < 64) (hc : c < 64) (hd : d < 64) :
    next? (UInt8.ofNat (a + 240) :: UInt8.ofNat (b + 128) :: UInt8.ofNat (c + 128) ::
        UInt8.ofNat (d + 128) :: rest) =
      (char? 0x10000 (((a * 64 + b) * 64 + c) * 64 + d)).map fun found => (found, rest) := by
  rw [next?, toNat_ofNat (by omega)]
  simp only
  rw [if_neg (by omega), if_neg (by omega), if_neg (by omega), if_neg (by omega),
    if_pos (by omega), trail?_ofNat hb, trail?_ofNat hc, trail?_ofNat hd]
  simp only [Nat.add_sub_cancel, Option.bind_eq_bind, Option.bind_some]
  exact Option.map_eq_bind.symm

end

theorem next?_encodeChar (c : Char) (rest : List UInt8) :
    next? (String.utf8EncodeChar c ++ rest) = some (c, rest) := by
  have hv : c.val.toNat = c.toNat := rfl
  have htop : c.toNat < 0x110000 := by
    have := c.valid
    simp only [UInt32.isValidChar, Nat.isValidChar, hv] at this
    omega
  simp only [String.utf8EncodeChar, hv]
  split
  · rw [List.cons_append, List.nil_append, next?_one (by omega), char?_of_eq rfl (by omega)]
    rfl
  split
  · rw [List.cons_append, List.cons_append, List.nil_append, next?_two (by omega) (by omega),
      char?_of_eq (c := c) (by omega) (by omega)]
    rfl
  split
  · rw [List.cons_append, List.cons_append, List.cons_append, List.nil_append,
      next?_three (by omega) (by omega) (by omega), char?_of_eq (c := c) (by omega) (by omega)]
    rfl
  · rw [List.cons_append, List.cons_append, List.cons_append, List.cons_append, List.nil_append,
      next?_four (by omega) (by omega) (by omega) (by omega),
      char?_of_eq (c := c) (by omega) (by omega)]
    rfl

/-! ### Texts -/

theorem length_le_length_encode (text : Text) : text.length ≤ (encode text).length := by
  induction text with
  | nil => exact Nat.le_refl _
  | cons c text ih =>
    have hc : 0 < (String.utf8EncodeChar c).length := by
      rw [String.length_utf8EncodeChar]
      exact c.utf8Size_pos
    rw [encode, List.flatMap_cons, List.length_append, List.length_cons, ← encode]
    omega

theorem decodeFrom_succ {found : Text} {fuel : Nat} {bytes : List UInt8} (h : bytes ≠ []) :
    decodeFrom found (fuel + 1) bytes =
      match next? bytes with
      | some (c, rest) => decodeFrom (c :: found) fuel rest
      | none => none := by
  cases bytes with
  | nil => exact absurd rfl h
  | cons => rfl

theorem decodeFrom_encode (found text : Text) {fuel : Nat} (h : text.length ≤ fuel) :
    decodeFrom found fuel (encode text) = some (found.reverse ++ text) := by
  induction text generalizing found fuel with
  | nil =>
    rw [List.append_nil]
    cases fuel <;> rfl
  | cons c text ih =>
    have hnext : next? (encode (c :: text)) = some (c, encode text) := next?_encodeChar c _
    have hne : encode (c :: text) ≠ [] := by
      intro he
      rw [he] at hnext
      cases hnext
    cases fuel with
    | zero => cases h
    | succ fuel =>
      rw [decodeFrom_succ hne, hnext]
      simp only
      rw [ih (c :: found) (Nat.le_of_succ_le_succ h), List.reverse_cons, List.append_assoc]
      rfl

theorem decode?_encode (text : Text) : decode? (encode text) = some text :=
  decodeFrom_encode [] text (length_le_length_encode text)

theorem length_of_decodeFrom {found : Text} {fuel : Nat} {bytes : List UInt8} {text : Text}
    (h : decodeFrom found fuel bytes = some text) : text.length ≤ found.length + fuel := by
  induction fuel generalizing found bytes with
  | zero =>
    cases bytes with
    | nil =>
      cases h
      simp
    | cons => cases h
  | succ fuel ih =>
    cases bytes with
    | nil =>
      cases h
      simp
    | cons b bytes =>
      rw [decodeFrom_succ (by simp)] at h
      split at h
      · have hl := ih h
        rw [List.length_cons] at hl
        omega
      · cases h

theorem length_of_decode? {bytes : List UInt8} {text : Text} (h : decode? bytes = some text) :
    text.length ≤ bytes.length := by
  simpa using length_of_decodeFrom h

/-! ### Order -/

theorem cons_ofNat_lt {a b : Nat} {r s : List UInt8} (hb : b < 256) (hle : a ≤ b)
    (h : a = b → r < s) : UInt8.ofNat a :: r < UInt8.ofNat b :: s := by
  rw [List.cons_lt_cons_iff, UInt8.lt_iff_toNat_lt, toNat_ofNat (by omega), toNat_ofNat hb]
  rcases Nat.lt_or_eq_of_le hle with hlt | rfl
  · exact .inl hlt
  · exact .inr ⟨rfl, h rfl⟩

theorem encodeChar_append_lt {c d : Char} (h : c.toNat < d.toNat) (r s : List UInt8) :
    String.utf8EncodeChar c ++ r < String.utf8EncodeChar d ++ s := by
  have hc : c.val.toNat = c.toNat := rfl
  have hd : d.val.toNat = d.toNat := rfl
  have htop : d.toNat < 0x110000 := by
    have := d.valid
    simp only [UInt32.isValidChar, Nat.isValidChar, hd] at this
    omega
  simp only [String.utf8EncodeChar, hc, hd]
  generalize c.toNat = m at *
  generalize d.toNat = n at *
  -- The first byte that differs is the lower one: it tells how many there are, or a higher part.
  split_ifs
  all_goals
    repeat' first | omega | refine cons_ofNat_lt (by omega) (by omega) fun _ => ?_

theorem encode_lt_encode {s t : Text} (h : s < t) : encode s < encode t := by
  induction s generalizing t with
  | nil =>
    cases t with
    | nil => exact absurd h (List.lt_irrefl _)
    | cons d t =>
      have hne : encode (d :: t) ≠ [] := by
        have hl := length_le_length_encode (d :: t)
        intro he
        rw [he] at hl
        cases hl
      obtain ⟨b, rest, he⟩ := List.exists_cons_of_ne_nil hne
      rw [he]
      exact List.nil_lt_cons b rest
  | cons c s ih =>
    cases t with
    | nil => exact absurd h (List.not_lt_nil _)
    | cons d t =>
      rcases List.cons_lt_cons_iff.mp h with hc | ⟨rfl, hs⟩
      · exact encodeChar_append_lt hc _ _
      · exact List.append_left_lt (ih hs)

end SnippetReview.Utf8
