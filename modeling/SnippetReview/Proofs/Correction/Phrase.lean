import Mathlib.Data.List.Basic
import SnippetReview.Proofs.Pattern.Rewriting

/-!
Phrases of fixed letters. A replacement makes no new occurrence of a phrase if the phrase cannot
overlap the new text and the ends of the new text belong to words as those of the old text do.
-/

namespace SnippetReview.Pattern

abbrev inWord (c : Option Char) : Bool :=
  Assertion.isWordAt false c

theorem inWord_lastOr {prev prev' : Option Char} (h : inWord prev' = inWord prev) (before : Text) :
    inWord (lastOr before prev') = inWord (lastOr before prev) := by
  cases hb : before.getLast? <;> simp [lastOr, hb, h]

structure Phrase where
  opens : Bool := false
  letters : Text
  closes : Bool := false
  letters_ne : letters ≠ [] := by decide

namespace Phrase

def FitsAt (p : Phrase) (prev : Option Char) (rest : Text) : Prop :=
  p.letters <+: rest ∧ (p.opens = true → inWord prev ≠ inWord rest.head?) ∧
    (p.closes = true → inWord p.letters.getLast? ≠ inWord (rest.drop p.letters.length).head?)

instance (p : Phrase) (prev : Option Char) (rest : Text) : Decidable (p.FitsAt prev rest) :=
  inferInstanceAs (Decidable (_ ∧ _ ∧ _))

theorem fitsAt_congr {p : Phrase} {prev before : Option Char} (h : inWord before = inWord prev)
    {rest : Text} : p.FitsAt before rest ↔ p.FitsAt prev rest := by
  rw [FitsAt, FitsAt, h]

theorem fitsAt_append {p : Phrase} {prev : Option Char} {after : Text} :
    p.FitsAt prev (p.letters ++ after) ↔ (p.opens = true → inWord prev ≠ inWord p.letters.head?) ∧
      (p.closes = true → inWord p.letters.getLast? ≠ inWord after.head?) := by
  rw [FitsAt, List.head?_append_of_ne_nil _ p.letters_ne, List.drop_left' rfl]
  exact and_iff_right (List.prefix_append _ _)

theorem FitsAt.congr {p : Phrase} {prev prev' : Option Char} {after after' : Text}
    (h : p.FitsAt prev (p.letters ++ after)) (hp : inWord prev' = inWord prev)
    (ha : inWord after'.head? = inWord after.head?) : p.FitsAt prev' (p.letters ++ after') := by
  rw [fitsAt_append] at h ⊢
  rwa [hp, ha]

theorem not_fitsAt_nil (p : Phrase) (prev : Option Char) : ¬ p.FitsAt prev [] :=
  fun h => p.letters_ne (List.prefix_nil.mp h.1)

end Phrase

def Meets (s t : Text) : Prop :=
  s <+: t ∨ t <+: s

instance (s t : Text) : Decidable (Meets s t) :=
  inferInstanceAs (Decidable (_ ∨ _))

theorem meets_of_prefix_append {s t rest : Text} (h : s <+: t ++ rest) : Meets s t :=
  List.prefix_or_prefix_of_prefix h (List.prefix_append t rest)

def Phrase.Skips (p : Phrase) (text : Text) : Prop :=
  ∀ k < text.length, Meets p.letters (text.drop k) →
    p.opens = true ∧ inWord (lastOr (text.take k) none) = inWord (text.drop k).head? ∧ 0 < k

instance (p : Phrase) (text : Text) : Decidable (p.Skips text) :=
  inferInstanceAs (Decidable (∀ k < text.length, _))

theorem Phrase.Skips.not_fitsAt {p : Phrase} {text : Text} (h : p.Skips text) {k : Nat}
    (hk : k < text.length) (prev : Option Char) (rest : Text) :
    ¬ p.FitsAt (lastOr (text.take k) prev) (text.drop k ++ rest) := by
  rintro ⟨hp, ho, -⟩
  obtain ⟨hopens, he, h0⟩ := h k hk (meets_of_prefix_append hp)
  have hd : text.drop k ≠ [] := by simpa using hk
  have ht : text.take k ≠ [] := by
    intro hn
    rcases List.take_eq_nil_iff.mp hn with h | rfl
    · omega
    · simp at hk
  apply ho hopens
  rw [List.head?_append_of_ne_nil _ hd, ← he, lastOr_of_ne_nil ht, lastOr_of_ne_nil ht]

def Phrase.Avoids (p : Phrase) (new : Text) : Prop :=
  (∀ j < p.letters.length, ¬ Meets (p.letters.drop j) new) ∧
    ∀ k < new.length, Meets p.letters (new.drop k) →
      p.opens = true ∧ inWord (lastOr (new.take k) none) = inWord (new.drop k).head? ∧ 0 < k

instance (p : Phrase) (new : Text) : Decidable (p.Avoids new) :=
  inferInstanceAs (Decidable (_ ∧ _))

theorem Phrase.Avoids.skips {p : Phrase} {new : Text} (h : p.Avoids new) : p.Skips new :=
  h.2

theorem Phrase.Avoids.skipped {p : Phrase} {new : Text} (h : p.Avoids new) (hn : new ≠ []) :
    Phrase.Skips ⟨false, new, false, hn⟩ p.letters :=
  fun j hj hm => absurd hm.symm (h.1 j hj)

def Matcher.Writes (m : Matcher) (q : Phrase) : Prop :=
  ∀ prev found rest out, m.width? prev (found ++ rest) = some found.length →
    q.FitsAt prev (q.letters ++ out)

theorem Matcher.writes_plain (m : Matcher) {new : Text} (hn : new ≠ []) :
    m.Writes ⟨false, new, false, hn⟩ :=
  fun _ _ _ _ _ => ⟨List.prefix_append _ _, nofun, nofun⟩

def KeepsEdges (m : Matcher) (new : Text) : Prop :=
  new ≠ [] ∧ ∀ prev found rest, m.width? prev (found ++ rest) = some found.length →
    inWord new.head? = inWord found.head? ∧ inWord new.getLast? = inWord found.getLast?

theorem Matcher.found_ne_nil {m : Matcher} {prev : Option Char} {found rest : Text}
    (h : m.width? prev (found ++ rest) = some found.length) : found ≠ [] := by
  rintro rfl
  simpa using (m.bounds _ _ _ h).1

section

variable {m : Matcher} {new : Text} {prev : Option Char} {text out : Text}

theorem Rewrites.inWord_head? (h : Rewrites m new prev text out) (he : KeepsEdges m new) :
    inWord out.head? = inWord text.head? := by
  cases h with
  | done => rfl
  | keep _ _ => rfl
  | replace hit _ =>
    rw [List.head?_append_of_ne_nil _ he.1,
      List.head?_append_of_ne_nil _ (Matcher.found_ne_nil hit)]
    exact (he.2 _ _ _ hit).1

-- Letters at the head of the output in which no new text begins stand in the text as well.
theorem Rewrites.prefix_text {q : Phrase} (before : Text) {letters : Text}
    (h : Rewrites m q.letters (lastOr before prev) text out) (hq : m.Writes q)
    (hs : q.Skips (before ++ letters)) (hp : letters <+: out) :
    letters <+: text ∧ Rewrites m q.letters (lastOr (before ++ letters) prev)
      (text.drop letters.length) (out.drop letters.length) := by
  induction letters generalizing before text out with
  | nil => exact ⟨List.nil_prefix, by simpa using h⟩
  | cons y letters ih =>
    generalize hb : lastOr before prev = here at h
    cases h with
    | done => simp at hp
    | @keep _ x rest out _ h =>
      obtain ⟨rfl, hp'⟩ := List.cons_prefix_cons.mp hp
      rw [List.append_cons] at hs
      obtain ⟨hr, hd⟩ := ih _ (by simpa [lastOr_append, lastOr_cons, lastOr_nil] using h) hs hp'
      exact ⟨List.cons_prefix_cons.mpr ⟨rfl, hr⟩, by simpa using hd⟩
    | @replace _ found rest out hit _ =>
      obtain ⟨after, ha⟩ := hp
      have hf := hq _ _ _ out hit
      rw [← ha, ← hb] at hf
      refine absurd hf ?_
      simpa using hs.not_fitsAt (k := before.length) (by simp) prev after

theorem Rewrites.fitsAt_text {q p : Phrase} (h : Rewrites m q.letters prev text out)
    (he : KeepsEdges m q.letters) (hq : m.Writes q) (hs : q.Skips p.letters)
    {before : Option Char} (hb : inWord before = inWord prev) (hf : p.FitsAt before out) :
    p.FitsAt prev text := by
  obtain ⟨hp, ho, hc⟩ := hf
  obtain ⟨ht, hd⟩ := Rewrites.prefix_text [] h hq hs hp
  refine ⟨ht, ?_, ?_⟩
  · rw [← hb, ← h.inWord_head? he]
    exact ho
  · rw [← hd.inWord_head? he]
    exact hc

-- A phrase in the output stands in the text at a place that is not the start of a match.
theorem Rewrites.somewhere_text (h : Rewrites m new prev text out) (he : KeepsEdges m new)
    {p : Phrase} (ha : p.Avoids new) {before : Option Char} (hb : inWord before = inWord prev)
    (hs : Somewhere p.FitsAt before out) :
    Somewhere (fun prev rest => p.FitsAt prev rest ∧ m.width? prev rest = none) prev text := by
  -- The character before may be of new text, so it is known only up to whether a word holds it.
  induction h generalizing before with
  | done => exact absurd hs (p.not_fitsAt_nil before)
  | keep miss h ih =>
    rcases hs with hf | hs
    · have ht := Rewrites.fitsAt_text (q := ⟨false, new, false, he.1⟩) (.keep miss h) he
        (m.writes_plain he.1) (ha.skipped he.1) hb hf
      exact .inl ⟨ht, miss⟩
    · exact .inr (ih rfl hs)
  | @replace prev found rest out hit h ih =>
    rcases somewhere_append.mp hs with ⟨k, hk, hf⟩ | hs
    · exact absurd hf (ha.skips.not_fitsAt hk _ _)
    · refine somewhere_append.mpr (.inr ?_)
      rw [lastOr_of_ne_nil he.1] at hs
      rw [lastOr_of_ne_nil (Matcher.found_ne_nil hit)]
      exact ih (he.2 _ _ _ hit).2 hs

end

end SnippetReview.Pattern
