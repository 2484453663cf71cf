import SnippetReview.Proofs.Correction.NormalForm
import SnippetReview.Proofs.Text.LineEnds

namespace SnippetReview.Pattern

open Text

theorem inWord_head?_crlf (text : Text) : inWord (crlf text).head? = inWord text.head? := by
  cases text with
  | nil => rfl
  | cons x rest =>
    by_cases hx : x = '\n'
    · subst hx
      exact (by decide : inWord (some '\r') = inWord (some '\n'))
    · rw [crlf_cons hx]
      rfl

structure Matcher.WithinLines (m : Matcher) : Prop where
  not_mem_take : ∀ prev rest n, m.width? prev rest = some n → '\n' ∉ rest.take n
  width?_crlf : ∀ prev prev' rest, inWord prev' = inWord prev →
    m.width? prev' (crlf rest) = m.width? prev rest

namespace Matcher.WithinLines

variable {m : Matcher} (hm : m.WithinLines)
include hm

theorem width?_newline (prev : Option Char) (rest : Text) :
    m.width? prev ('\n' :: rest) = none := by
  cases hw : m.width? prev ('\n' :: rest) with
  | none => rfl
  | some n =>
    obtain ⟨h0, -⟩ := m.bounds _ _ _ hw
    obtain ⟨k, rfl⟩ : ∃ k, n = k + 1 := ⟨n - 1, by omega⟩
    exact absurd List.mem_cons_self (hm.not_mem_take _ _ _ hw)

theorem width?_return {prev prev' : Option Char} (h : inWord prev' = inWord prev) (rest : Text) :
    m.width? prev' ('\r' :: '\n' :: crlf rest) = none := by
  have hw := hm.width?_crlf prev prev' ('\n' :: rest) h
  rwa [hm.width?_newline prev rest] at hw

theorem somewhere_crlf {prev prev' : Option Char} (h : inWord prev' = inWord prev) (text : Text) :
    Somewhere m.Hits prev' (crlf text) ↔ Somewhere m.Hits prev text := by
  have here (prev prev' : Option Char) (h : inWord prev' = inWord prev) (rest : Text) :
      m.Hits prev' (crlf rest) ↔ m.Hits prev rest := by
    rw [Matcher.Hits, Matcher.Hits, hm.width?_crlf prev prev' rest h]
  induction text generalizing prev prev' with
  | nil => exact here prev prev' h []
  | cons x rest ih =>
    by_cases hx : x = '\n'
    · subst hx
      have hr : ¬ m.Hits prev' ('\r' :: '\n' :: crlf rest) := by
        simp [Matcher.Hits, hm.width?_return h]
      have hn (p : Option Char) (t : Text) : ¬ m.Hits p ('\n' :: t) := by
        simp [Matcher.Hits, hm.width?_newline]
      simp only [crlf_newline, Somewhere, hr, hn, false_or]
      exact ih rfl
    · have hc := here prev prev' h (x :: rest)
      rw [crlf_cons hx] at hc ⊢
      exact or_congr hc (ih rfl)

theorem rewrites_crlf {new : Text} (hnew : '\n' ∉ new) {prev prev' : Option Char}
    (h : inWord prev' = inWord prev) {text out : Text} (hr : Rewrites m new prev text out) :
    Rewrites m new prev' (crlf text) (crlf out) := by
  induction hr generalizing prev' with
  | done => exact .done
  | @keep prev x rest out miss _ ih =>
    by_cases hx : x = '\n'
    · subst hx
      exact .keep (hm.width?_return h rest) (.keep (hm.width?_newline _ _) (ih rfl))
    · have hw := hm.width?_crlf prev prev' (x :: rest) h
      rw [crlf_cons hx, miss] at hw
      rw [crlf_cons hx, crlf_cons hx]
      exact .keep hw (ih rfl)
  | @replace prev found rest out hit _ ih =>
    have hf : '\n' ∉ found := by
      have := hm.not_mem_take _ _ _ hit
      rwa [List.take_left' rfl] at this
    have hw := hm.width?_crlf prev prev' (found ++ rest) h
    rw [crlf_append_of_not_mem hf, hit] at hw
    rw [crlf_append_of_not_mem hf, crlf_append_of_not_mem hnew]
    exact .replace hw (ih rfl)

theorem occursIn_crlf {r : Regex} (hr : r.Realizes m) (text : Text) :
    r.occursIn (crlf text) = r.occursIn text := by
  rw [Bool.eq_iff_iff, hr.occursIn_iff, hr.occursIn_iff]
  exact hm.somewhere_crlf rfl text

theorem replaceAll_crlf {r : Regex} (hr : r.Realizes m) {new : Text} (hnew : '\n' ∉ new)
    (text : Text) : r.replaceAll new (crlf text) = crlf (r.replaceAll new text) := by
  have h := hm.rewrites_crlf hnew rfl (hr.rewrites_replaceAll new text)
  exact h.unique (hr.rewrites_replaceAll new (crlf text))

end Matcher.WithinLines

namespace Phrase

theorem drop_crlf {p : Phrase} (hp : IsInline p.letters) {rest : Text}
    (h : p.letters <+: rest) :
    (crlf rest).drop p.letters.length = crlf (rest.drop p.letters.length) := by
  obtain ⟨after, rfl⟩ := h
  rw [crlf_append_of_not_mem hp.1, List.drop_left' rfl, List.drop_left' rfl]

theorem fitsAt_crlf {p : Phrase} (hp : IsInline p.letters) {prev prev' : Option Char}
    (h : inWord prev' = inWord prev) (rest : Text) :
    p.FitsAt prev' (crlf rest) ↔ p.FitsAt prev rest := by
  unfold FitsAt
  rw [prefix_crlf_iff hp, inWord_head?_crlf, h]
  apply and_congr_right
  intro hl
  rw [drop_crlf hp hl, inWord_head?_crlf]

open Regex

def regex (p : Phrase) : Regex :=
  joined p.pieces

def matcher (p : Phrase) : Matcher where
  width? prev rest := if p.FitsAt prev rest then some p.letters.length else none
  bounds prev rest n h := by
    obtain ⟨hf, rfl⟩ := Option.ite_none_right_eq_some.mp h |>.imp_right Option.some.inj
    exact ⟨List.length_pos_iff.mpr p.letters_ne, hf.1.length_le⟩

theorem realizes (p : Phrase) : p.regex.Realizes p.matcher := by
  intro c
  rw [matchAt, regex, matchThen_pieces]
  simp only [matcher, apply_ite (Option.map _), Option.map_some, Option.map_none]

theorem withinLines {p : Phrase} (hp : IsInline p.letters) : p.matcher.WithinLines where
  not_mem_take prev rest n h := by
    obtain ⟨hf, rfl⟩ := Option.ite_none_right_eq_some.mp h |>.imp_right Option.some.inj
    rw [← List.prefix_iff_eq_take.mp hf.1]
    exact hp.1
  width?_crlf prev prev' rest h := by
    simp only [matcher, fitsAt_crlf hp h]

end Phrase

theorem newline_not_mem_margin (on : Bool) (text : Text) : '\n' ∉ text.take (margin on text) := by
  intro h
  have hg := (gap_of_mem_margin h).2
  revert hg
  decide

theorem margin_crlf (on : Bool) (text : Text) : margin on (crlf text) = margin on text := by
  have h : (crlf text).takeWhile gap.contains = text.takeWhile gap.contains := by
    induction text with
    | nil => rfl
    | cons x rest ih =>
      by_cases hx : x = '\n'
      · subst hx
        have hr : gap.contains '\r' = false := by decide
        have hn : gap.contains '\n' = false := by decide
        simp [crlf_newline, hr, hn]
      · rw [crlf_cons hx, List.takeWhile_cons, List.takeWhile_cons, ih]
  unfold margin
  rw [h]

namespace Rewording

theorem withinLines {w : Rewording} (hw : IsInline w.phrase.letters) : w.matcher.WithinLines where
  not_mem_take prev rest n h := by
    have hn : (rest.take n).length = n := List.length_take_of_le (w.width?_bounds prev rest n h).2
    have hf : w.width? prev (rest.take n ++ rest.drop n) = some (rest.take n).length := by
      rw [List.take_append_drop, hn]
      exact h
    have hgap : gap.contains '\n' = false := by decide
    obtain ⟨before, after, he, hb, ha⟩ := found_eq hf
    rw [he, List.mem_append, List.mem_append]
    rintro (hm | hm | hm)
    · exact absurd (hb _ hm).2 (by simp [hgap])
    · exact hw.1 hm
    · exact absurd (ha _ hm).2 (by simp [hgap])
  width?_crlf prev prev' rest h := by
    obtain ⟨htake, hdrop⟩ :=
      take_crlf (newline_not_mem_margin w.padded rest) (margin_le w.padded rest)
    have hfits := Phrase.fitsAt_crlf hw (inWord_lastOr h (rest.take (margin w.padded rest)))
      (rest.drop (margin w.padded rest))
    simp only [matcher, width?, margin_crlf, htake, hdrop, hfits]
    by_cases hf : w.phrase.FitsAt (lastOr (rest.take (margin w.padded rest)) prev)
        (rest.drop (margin w.padded rest))
    · rw [if_pos hf, if_pos hf, ← List.drop_drop, hdrop, Phrase.drop_crlf hw hf.1, List.drop_drop,
        margin_crlf]
    · rw [if_neg hf, if_neg hf]

def IsInline (w : Rewording) : Prop :=
  Text.IsInline w.phrase.letters ∧ '\n' ∉ w.new

instance (w : Rewording) : Decidable w.IsInline :=
  inferInstanceAs (Decidable (_ ∧ _))

theorem apply_crlf {w : Rewording} (hw : w.IsInline) (text : Text) :
    w.correction.apply (crlf text) = crlf (w.correction.apply text) :=
  (withinLines hw.1).replaceAll_crlf w.realizes hw.2 text

theorem applyAll_crlf {ws : List Rewording} (h : ∀ w ∈ ws, w.IsInline) (text : Text) :
    applyAll ws (crlf text) = crlf (applyAll ws text) := by
  induction ws generalizing text with
  | nil => rfl
  | cons w ws ih =>
    have here := apply_crlf (h w List.mem_cons_self) text
    have later := ih (fun v hv => h v (List.mem_cons_of_mem _ hv)) (w.correction.apply text)
    rw [← here] at later
    exact later

end Rewording

end SnippetReview.Pattern
