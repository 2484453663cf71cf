import SnippetReview.Proofs.Correction.Phrase
import SnippetReview.Profile.Rule

namespace SnippetReview.Pattern

namespace Regex

def joined : List Regex → Regex
  | [] => .empty
  | [r] => r
  | r :: rest => .seq r (joined rest)

theorem matchThen_joined_cons (r : Regex) (rest : List Regex) (k : Continuation) (c : Cursor) :
    (joined (r :: rest)).matchThen k c = r.matchThen ((joined rest).matchThen k) c := by
  cases rest with
  | nil => rfl
  | cons q rest => rfl

theorem matchThen_joined_append (rs qs : List Regex) (k : Continuation) (c : Cursor) :
    (joined (rs ++ qs)).matchThen k c = (joined rs).matchThen ((joined qs).matchThen k) c := by
  induction rs generalizing c with
  | nil => rfl
  | cons r rs ih =>
    rw [List.cons_append, matchThen_joined_cons, matchThen_joined_cons]
    congr 1
    funext d
    exact ih d

end Regex

theorem CharClass.contains_single (x y : Char) : (single x).contains y = true ↔ y = x := by
  simp only [single, contains, Bool.and_eq_true, decide_eq_true_eq]
  exact ⟨fun h => Char.le_antisymm h.2 h.1, fun h => h ▸ ⟨Char.le_refl _, Char.le_refl _⟩⟩

/-! ### Phrases -/

namespace Phrase

open Regex

def boundary (on : Bool) : List Regex :=
  if on then [.look (.word .boundary false)] else []

def pieces (p : Phrase) : List Regex :=
  boundary p.opens ++ p.letters.map (fun x => .chars (.single x)) ++ boundary p.closes

theorem matchThen_boundary (on : Bool) (k : Continuation) (c : Cursor) :
    (joined (boundary on)).matchThen k c =
      if on = true → inWord c.prev ≠ inWord c.rest.head? then k c else none := by
  cases on <;> simp [boundary, joined, matchThen, Assertion.holds, Assertion.edgeHolds, Cursor.next]

theorem matchThen_letters (letters : Text) (k : Continuation) (c : Cursor) :
    (joined (letters.map fun x => .chars (.single x))).matchThen k c =
      if letters <+: c.rest then k (c.advance letters.length) else none := by
  induction letters generalizing c with
  | nil => simp [joined, matchThen, Cursor.advance_zero]
  | cons y letters ih =>
    rw [List.map_cons, matchThen_joined_cons, matchThen]
    cases hr : c.rest with
    | nil => simp
    | cons x rest =>
      by_cases hx : x = y
      · subst hx
        simp [CharClass.contains_single, ih, Cursor.advance_step hr, Cursor.step]
      · simp [CharClass.contains_single, hx, List.cons_prefix_cons, Ne.symm hx]

theorem advance_letters {p : Phrase} {c : Cursor} (h : p.letters <+: c.rest) :
    c.advance p.letters.length =
      ⟨c.pos + p.letters.length, p.letters.getLast?, c.rest.drop p.letters.length⟩ := by
  rw [Cursor.advance_eq h.length_le, ← List.prefix_iff_eq_take.mp h, lastOr_of_ne_nil p.letters_ne]

theorem matchThen_pieces (p : Phrase) (k : Continuation) (c : Cursor) :
    (joined p.pieces).matchThen k c =
      if p.FitsAt c.prev c.rest then k (c.advance p.letters.length) else none := by
  rw [pieces, matchThen_joined_append, matchThen_joined_append, matchThen_boundary,
    matchThen_letters, matchThen_boundary]
  by_cases hp : p.letters <+: c.rest
  · simp only [FitsAt, hp, true_and, if_true, advance_letters hp]
    by_cases ho : p.opens = true → inWord c.prev ≠ inWord c.rest.head?
    · rw [if_pos ho]
      simp only [and_iff_right ho]
    · rw [if_neg ho, if_neg fun h => ho h.1]
  · simp only [FitsAt, hp, false_and, if_false, ite_self]

end Phrase

/-! ### Rewordings -/

def gap : CharClass :=
  .union (.single ' ') (.union (.single '\t') .never)

theorem not_inWord_of_gap {x : Char} (h : gap.contains x = true) : inWord (some x) = false := by
  simp only [gap, CharClass.contains, Bool.or_false, Bool.or_eq_true,
    CharClass.contains_single] at h
  rcases h with rfl | rfl <;> decide

/-- A phrase and the text that is written for it, perhaps also for the gaps around it. -/
structure Rewording where
  phrase : Phrase
  padded : Bool := false
  new : Text
  new_ne : new ≠ [] := by decide
  first_edge : inWord new.head? = inWord phrase.letters.head? := by decide
  last_edge : inWord new.getLast? = inWord phrase.letters.getLast? := by decide
  padding : padded = true → phrase.letters.head?.any gap.contains = false ∧
    inWord phrase.letters.head? = false ∧ inWord phrase.letters.getLast? = false := by decide

/-! ### Gaps -/

def margin (on : Bool) (text : Text) : Nat :=
  if on then (text.takeWhile gap.contains).length else 0

theorem margin_le (on : Bool) (text : Text) : margin on text ≤ text.length := by
  cases on with
  | false => exact Nat.zero_le _
  | true => exact (List.takeWhile_prefix _).length_le

theorem gap_of_mem_margin {on : Bool} {text : Text} {x : Char}
    (h : x ∈ text.take (margin on text)) : on = true ∧ gap.contains x = true := by
  cases on with
  | false => simp [margin] at h
  | true =>
    rw [margin, if_pos rfl, ← List.prefix_iff_eq_take.mp (List.takeWhile_prefix _)] at h
    exact ⟨rfl, List.all_eq_true.mp List.all_takeWhile x h⟩

theorem margin_append {on : Bool} {s t : Text} (hs : ∀ x ∈ s, on = true ∧ gap.contains x = true)
    (ht : on = true → t.head?.any gap.contains = false) : margin on (s ++ t) = s.length := by
  cases on with
  | false =>
    have h : s = [] := List.eq_nil_iff_forall_not_mem.mpr fun x hx => by simpa using (hs x hx).1
    simp [margin, h]
  | true =>
    have h : t.takeWhile gap.contains = [] := by
      cases t with
      | nil => rfl
      | cons x t =>
        have hx : gap.contains x = false := by simpa using ht rfl
        simp [hx]
    rw [margin, if_pos rfl, List.takeWhile_append_of_pos fun x hx => (hs x hx).2, h,
      List.append_nil]

theorem head?_drop_margin (text : Text) :
    (text.drop (margin true text)).head?.any gap.contains = false := by
  induction text with
  | nil => rfl
  | cons x text ih =>
    by_cases hx : gap.contains x = true
    · simpa [margin, hx] using ih
    · simp [margin, hx]

namespace Rewording

open Regex

def padding? (on : Bool) : List Regex :=
  if on then [.run gap 0 true] else []

def regex (w : Rewording) : Regex :=
  joined (padding? w.padded ++ (w.phrase.pieces ++ padding? w.padded))

def correction (w : Rewording) : Correction :=
  ⟨w.regex, w.new⟩

theorem matchThen_padding {on : Bool} {k : Continuation} {c : Cursor}
    (hk : ∀ n < margin on c.rest, k (c.advance n) = none ∨
      (k (c.advance (margin on c.rest))).isSome) :
    (joined (padding? on)).matchThen k c = k (c.advance (margin on c.rest)) := by
  cases on with
  | false => rfl
  | true => exact matchThen_run_longest hk

def width? (w : Rewording) (prev : Option Char) (rest : Text) : Option Nat :=
  let before := margin w.padded rest
  if w.phrase.FitsAt (lastOr (rest.take before) prev) (rest.drop before) then
    let through := before + w.phrase.letters.length
    some (through + margin w.padded (rest.drop through))
  else none

theorem width?_bounds (w : Rewording) (prev : Option Char) (rest : Text) (n : Nat)
    (h : w.width? prev rest = some n) : 0 < n ∧ n ≤ rest.length := by
  simp only [width?, Option.ite_none_right_eq_some, Option.some.injEq] at h
  obtain ⟨⟨hp, -⟩, rfl⟩ := h
  have h0 : 0 < w.phrase.letters.length := List.length_pos_iff.mpr w.phrase.letters_ne
  have hl := hp.length_le
  have hb := margin_le w.padded rest
  have ha := margin_le w.padded (rest.drop (margin w.padded rest + w.phrase.letters.length))
  rw [List.length_drop] at hl ha
  omega

def matcher (w : Rewording) : Matcher :=
  ⟨w.width?, w.width?_bounds⟩

theorem not_fitsAt_of_lt_margin (w : Rewording) {rest : Text} {n : Nat}
    (h : n < margin w.padded rest) (prev : Option Char) :
    ¬ w.phrase.FitsAt prev (rest.drop n) := by
  have hl : n < rest.length := Nat.lt_of_lt_of_le h (margin_le _ _)
  obtain ⟨hon, hg⟩ : w.padded = true ∧ gap.contains rest[n] = true :=
    gap_of_mem_margin (List.mem_take_iff_getElem.mpr ⟨n, by omega, rfl⟩)
  rintro ⟨⟨after, ha⟩, -⟩
  have hx : w.phrase.letters.head? = some rest[n] := by
    have hh : (w.phrase.letters ++ after).head? = w.phrase.letters.head? :=
      List.head?_append_of_ne_nil _ w.phrase.letters_ne
    rw [← hh, ha, List.head?_drop, List.getElem?_eq_getElem hl]
  have hn := (w.padding hon).1
  rw [hx, Option.any_some, hg] at hn
  cases hn

theorem realizes (w : Rewording) : w.regex.Realizes w.matcher := by
  intro c
  have hb := margin_le w.padded c.rest
  have trailing (d : Cursor) : (joined (padding? w.padded)).matchThen some d =
      some (d.advance (margin w.padded d.rest)) := matchThen_padding (by simp)
  rw [matchAt, regex, matchThen_joined_append, matchThen_padding]
  · rw [matchThen_joined_append, Phrase.matchThen_pieces, trailing, ← Cursor.advance_add,
      Cursor.advance_rest]
    simp only [matcher, width?, ← Cursor.advance_add]
    simp only [Cursor.advance_eq hb, Cursor.advance_rest, Nat.add_assoc,
      apply_ite (Option.map _), Option.map_some, Option.map_none]
  · -- After fewer gaps a gap comes next, with which the phrase does not begin.
    intro n hn
    left
    rw [matchThen_joined_append, Phrase.matchThen_pieces, if_neg]
    rw [Cursor.advance_rest]
    exact w.not_fitsAt_of_lt_margin hn _

/-! ### What is replaced -/

section

variable {w : Rewording} {prev : Option Char} {s found rest : Text}

theorem width?_congr {before : Option Char} (h : inWord before = inWord prev) (rest : Text) :
    w.width? before rest = w.width? prev rest := by
  simp only [width?, Phrase.fitsAt_congr (inWord_lastOr h _)]

theorem width?_gap {x : Char} (hw : w.padded = true) (hx : gap.contains x = true) (rest : Text) :
    w.width? prev (x :: rest) = (w.width? (some x) rest).map (· + 1) := by
  have hm : margin true (x :: rest) = margin true rest + 1 := by simp [margin, hx]
  simp only [width?, hw, hm, List.take_succ_cons, List.drop_succ_cons, lastOr_cons,
    Nat.add_right_comm _ 1]
  split <;> simp

theorem width?_eq_iff : w.width? prev (found ++ rest) = some found.length ↔
    ∃ before after, found = before ++ (w.phrase.letters ++ after) ∧
      (∀ x ∈ before, w.padded = true ∧ gap.contains x = true) ∧
      (∀ x ∈ after, w.padded = true ∧ gap.contains x = true) ∧
      (w.padded = true → rest.head?.any gap.contains = false) ∧
      w.phrase.FitsAt (lastOr before prev) (w.phrase.letters ++ (after ++ rest)) := by
  constructor
  · intro h
    simp only [width?, Option.ite_none_right_eq_some, Option.some.injEq] at h
    obtain ⟨hf, hn⟩ := h
    have hfound : found = (found ++ rest).take found.length := (List.take_left' rfl).symm
    have hrest : rest = (found ++ rest).drop found.length := (List.drop_left' rfl).symm
    rw [← hn] at hfound hrest
    generalize found ++ rest = text at hfound hrest hf
    have hp := List.prefix_iff_eq_take.mp hf.1
    rw [List.take_add, List.take_add, ← hp, List.append_assoc] at hfound
    refine ⟨_, _, hfound, fun _ => gap_of_mem_margin, fun _ => gap_of_mem_margin, ?_, ?_⟩
    · intro hw
      rw [hrest, hw, ← List.drop_drop]
      exact head?_drop_margin _
    · rw [← List.drop_drop] at hrest
      rw [hrest, List.take_append_drop, ← List.drop_drop, List.prefix_iff_eq_append.mp hf.1]
      exact hf
  · rintro ⟨gaps, after, rfl, hb, ha, hr, hf⟩
    have hm : margin w.padded (gaps ++ (w.phrase.letters ++ (after ++ rest))) = gaps.length := by
      refine margin_append hb fun hw => ?_
      rw [List.head?_append_of_ne_nil _ w.phrase.letters_ne]
      exact (w.padding hw).1
    simp [width?, hm, hf, margin_append ha hr, ← List.drop_drop, Nat.add_assoc]

theorem found_eq (h : w.width? prev (found ++ rest) = some found.length) :
    ∃ before after, found = before ++ (w.phrase.letters ++ after) ∧
      (∀ x ∈ before, w.padded = true ∧ gap.contains x = true) ∧
      ∀ x ∈ after, w.padded = true ∧ gap.contains x = true := by
  obtain ⟨before, after, hf, hb, ha, -⟩ := width?_eq_iff.mp h
  exact ⟨before, after, hf, hb, ha⟩

theorem width?_gaps (hs : ∀ x ∈ s, w.padded = true ∧ gap.contains x = true) (rest : Text) :
    w.width? prev (s ++ rest) = (w.width? (lastOr s prev) rest).map (s.length + ·) := by
  induction s generalizing prev with
  | nil => simp [lastOr_nil]
  | cons x s ih =>
    obtain ⟨⟨hw, hx⟩, hs⟩ := List.forall_mem_cons.mp hs
    rw [List.cons_append, width?_gap hw hx, ih hs, Option.map_map, lastOr_cons]
    congr 1
    funext n
    simp only [Function.comp_apply, List.length_cons]
    omega

theorem hits_gaps (hs : ∀ x ∈ s, w.padded = true ∧ gap.contains x = true) :
    w.matcher.Hits prev (s ++ rest) ↔ w.matcher.Hits (lastOr s prev) rest := by
  simp [Matcher.Hits, matcher, width?_gaps hs]

theorem hits_gap {x : Char} (hw : w.padded = true) (hx : gap.contains x = true) :
    w.matcher.Hits prev (x :: rest) ↔ w.matcher.Hits (some x) rest :=
  hits_gaps (List.forall_mem_singleton.mpr ⟨hw, hx⟩)

theorem fitsAt_of_hits (h : w.matcher.Hits prev rest)
    (hr : w.padded = true → rest.head?.any gap.contains = false) : w.phrase.FitsAt prev rest := by
  have hm : margin w.padded rest = 0 := margin_append (s := []) (by simp) hr
  simpa [Matcher.Hits, matcher, width?, hm, lastOr_nil] using h

theorem hits_append (h : w.matcher.Hits prev (s ++ rest)) :
    (∃ k < s.length, w.phrase.FitsAt (lastOr (s.take k) prev) (s.drop k ++ rest)) ∨
      (∀ x ∈ s, w.padded = true ∧ gap.contains x = true) ∧ w.matcher.Hits (lastOr s prev) rest := by
  induction s generalizing prev with
  | nil => exact .inr ⟨by simp, h⟩
  | cons x s ih =>
    by_cases hx : w.padded = true ∧ gap.contains x = true
    · rcases ih ((hits_gap hx.1 hx.2).mp h) with ⟨k, hk, hf⟩ | ⟨hg, hr⟩
      · exact .inl ⟨k + 1, by simpa using hk, by simpa [lastOr_cons] using hf⟩
      · exact .inr ⟨List.forall_mem_cons.mpr ⟨hx, hg⟩, by rwa [lastOr_cons]⟩
    · have hf : w.phrase.FitsAt prev (x :: (s ++ rest)) :=
        fitsAt_of_hits h fun hw => by simpa [hw] using hx
      exact .inl ⟨0, by simp, hf⟩

end

theorem keepsEdges (w : Rewording) : KeepsEdges w.matcher w.new := by
  refine ⟨w.new_ne, fun prev found rest h => ?_⟩
  obtain ⟨before, after, rfl, hb, ha⟩ := found_eq h
  constructor
  · rw [w.first_edge]
    cases before with
    | nil => rw [List.nil_append, List.head?_append_of_ne_nil _ w.phrase.letters_ne]
    | cons x before =>
      obtain ⟨hon, hx⟩ := hb x List.mem_cons_self
      rw [(w.padding hon).2.1, List.cons_append, List.head?_cons, not_inWord_of_gap hx]
  · rw [w.last_edge, ← List.append_assoc]
    rcases List.eq_nil_or_concat after with rfl | ⟨after, x, rfl⟩
    · rw [List.append_nil, List.getLast?_append_of_ne_nil _ w.phrase.letters_ne]
    · obtain ⟨hon, hx⟩ := ha x (by simp)
      rw [(w.padding hon).2.2, List.concat_eq_append, ← List.append_assoc, List.getLast?_concat,
        not_inWord_of_gap hx]

theorem hits_of_fitsAt {w : Rewording} {prev : Option Char} {rest : Text}
    (h : w.phrase.FitsAt prev rest) : w.matcher.Hits prev rest := by
  have h0 : margin w.padded rest = 0 := by
    by_contra hn
    exact w.not_fitsAt_of_lt_margin (n := 0) (Nat.pos_of_ne_zero hn) prev h
  simp [Matcher.Hits, matcher, width?, h0, lastOr_nil, h]

theorem somewhere_fitsAt_of_hits {w : Rewording} {prev : Option Char} {rest : Text}
    (h : w.matcher.Hits prev rest) : Somewhere w.phrase.FitsAt prev rest := by
  simp only [Matcher.Hits, matcher, width?, Option.isSome_ite] at h
  rw [← List.take_append_drop (margin w.padded rest) rest]
  exact somewhere_append.mpr (.inr (.here h))

theorem occursIn_iff (w : Rewording) (text : Text) :
    w.regex.occursIn text = true ↔ Somewhere w.phrase.FitsAt none text := by
  rw [w.realizes.occursIn_iff]
  exact ⟨fun h => h.bind fun _ _ => somewhere_fitsAt_of_hits,
    fun h => h.bind fun _ _ hf => .here (hits_of_fitsAt hf)⟩

theorem occursIn_apply_self {w : Rewording} (ha : w.phrase.Avoids w.new) (text : Text) :
    w.regex.occursIn (w.correction.apply text) = false := by
  rw [← Bool.not_eq_true, occursIn_iff]
  intro hs
  obtain ⟨prev, rest, hf, hm⟩ := (w.realizes.rewrites_replaceAll w.new text).somewhere_text
    w.keepsEdges ha rfl hs |>.exists
  simpa [Matcher.Hits, hm] using hits_of_fitsAt hf

theorem occursIn_apply {w v : Rewording} (ha : v.phrase.Avoids w.new) {text : Text}
    (h : v.regex.occursIn text = false) : v.regex.occursIn (w.correction.apply text) = false := by
  rw [← Bool.not_eq_true, occursIn_iff] at h ⊢
  intro hs
  have := (w.realizes.rewrites_replaceAll w.new text).somewhere_text w.keepsEdges ha rfl hs
  exact h (this.bind fun _ _ hf => .here hf.1)

end Rewording

end SnippetReview.Pattern
