import SnippetReview.Proofs.Correction.NormalForm
import SnippetReview.Proofs.Correction.Spelling
import SnippetReview.Proofs.Report
import SnippetReview.Proofs.Text.Lines

namespace SnippetReview.Pattern

open Text

/-! ### Words beside blanks -/

def blankCodes : List Nat :=
  [0x09, 0x0A, 0x0B, 0x0C, 0x0D, 0x20, 0x85, 0xA0, 0x1680, 0x2000, 0x2001, 0x2002, 0x2003, 0x2004,
    0x2005, 0x2006, 0x2007, 0x2008, 0x2009, 0x200A, 0x2028, 0x2029, 0x202F, 0x205F, 0x3000]

theorem mem_blankCodes {c : Char} (h : isBlank c = true) : c.toNat ∈ blankCodes := by
  simp only [isBlank, Bool.or_eq_true, Bool.and_eq_true, decide_eq_true_eq, beq_iff_eq] at h
  simp only [blankCodes, List.mem_cons, List.not_mem_nil, or_false]
  omega

theorem not_inWord_blankCodes : ∀ n ∈ blankCodes, inWord (some (Char.ofNat n)) = false := by
  decide +kernel

theorem not_inWord_of_isBlank {c : Char} (h : isBlank c = true) : inWord (some c) = false := by
  have hc := not_inWord_blankCodes c.toNat (mem_blankCodes h)
  rwa [Char.ofNat_toNat] at hc

theorem not_inWord_head?_of_blanks {text : Text} (h : ∀ x ∈ text, isBlank x = true) :
    inWord text.head? = false := by
  cases text with
  | nil => rfl
  | cons x rest => exact not_inWord_of_isBlank (h x List.mem_cons_self)

theorem inWord_head?_trimRight (text : Text) :
    inWord (trimRight text).head? = inWord text.head? := by
  by_cases h : trimRight text = []
  · rw [h, not_inWord_head?_of_blanks (all_isBlank_of_trimRight h)]
    rfl
  · rw [head?_trimRight h]

theorem inWord_lastOr_trimLeft (text : Text) :
    inWord (lastOr (trimLeft text) none) = inWord (lastOr text none) := by
  rw [lastOr, lastOr, Option.or_none, Option.or_none]
  by_cases h : trimLeft text = []
  · have hblank : ∀ x ∈ text.reverse, isBlank x = true :=
      fun x hx => all_isBlank_of_trimLeft h x (List.mem_reverse.mp hx)
    have hb := not_inWord_head?_of_blanks hblank
    rw [List.head?_reverse] at hb
    rw [h, hb]
    rfl
  · rw [getLast?_trimLeft h]

theorem inWord_head?_lineTail (rest : Text) : inWord (lineTail rest).head? = inWord rest.head? := by
  cases rest with
  | nil => rfl
  | cons x rest =>
    by_cases hx : x = '\n'
    · subst hx
      exact (by decide : inWord none = inWord (some '\n'))
    · simp [lineTail, hx]

theorem inWord_lastOr_lineHead {before head : Text} (h : IsLineHead before head) :
    inWord (lastOr head none) = inWord (lastOr before none) := by
  obtain ⟨-, rfl | ⟨earlier, rfl⟩⟩ := h
  · rfl
  · cases head with
    | nil =>
      rw [lastOr_nil, lastOr_of_ne_nil (List.append_ne_nil_of_right_ne_nil earlier (by simp)),
        List.getLast?_concat]
      decide
    | cons x head =>
      rw [lastOr_of_ne_nil (by simp), lastOr_of_ne_nil (by simp), List.append_cons,
        List.getLast?_append_of_ne_nil _ (by simp)]

/-! ### Phrases in trimmed lines -/

namespace Phrase

variable {p : Phrase}

def IsMarked (p : Phrase) : Prop :=
  '\n' ∉ p.letters ∧ p.letters.head?.any isBlank = false

instance (p : Phrase) : Decidable p.IsMarked :=
  inferInstanceAs (Decidable (_ ∧ _))

def IsHeld (p : Phrase) (after : Text) : Prop :=
  p.letters.getLast?.any isBlank = false ∨ ∃ x ∈ lineTail after, isBlank x = false

theorem IsHeld.trimRight_eq {after : Text} (h : p.IsHeld after) :
    trimRight (p.letters ++ lineTail after) = p.letters ++ trimRight (lineTail after) := by
  rcases h with h | ⟨x, hm, hx⟩
  · obtain ⟨y, hy⟩ := Option.ne_none_iff_exists'.mp (mt List.getLast?_eq_none_iff.mp p.letters_ne)
    rw [hy] at h
    exact trimRight_append_of_getLast? hy (by simpa using h) _
  · refine trimRight_append (fun hn => ?_) _
    have hb := all_isBlank_of_trimRight hn x hm
    rw [hx] at hb
    cases hb

theorem FitsAt.exists_line (hp : p.IsMarked) {before after : Text}
    (h : p.FitsAt (lastOr before none) (p.letters ++ after)) (hh : p.IsHeld after) :
    ∃ line ∈ lines (before ++ (p.letters ++ after)), Somewhere p.FitsAt none (trim line) := by
  obtain ⟨x, hx⟩ := Option.ne_none_iff_exists'.mp (mt List.head?_eq_none_iff.mp p.letters_ne)
  have hb : isBlank x = false := by simpa [hx] using hp.2
  have htail : lineTail (p.letters ++ after) = p.letters ++ lineTail after :=
    lineTail_append hp.1 after
  obtain ⟨head, hl⟩ := exists_isLineHead before
  have hne : head ++ lineTail (p.letters ++ after) ≠ [] := by simp [htail, p.letters_ne]
  obtain ⟨line, hm, ht⟩ := hl.exists_line hne
  refine ⟨line, hm, ?_⟩
  rw [ht, htail, trim_append (x := x) (by simp [hx]) hb, hh.trimRight_eq]
  refine somewhere_append.mpr (.inr (.here (h.congr ?_ ?_)))
  · rw [inWord_lastOr_trimLeft, inWord_lastOr_lineHead hl]
  · rw [inWord_head?_trimRight, inWord_head?_lineTail]

end Phrase

end SnippetReview.Pattern

namespace SnippetReview

open Pattern

/-! ### Rules -/

def LineRule.Reveals (rule : LineRule) (p : Phrase) : Prop :=
  rule.severity = .error ∧ rule.exempt = none ∧ rule.exemptSource = none ∧
    p.IsSpelledBy rule.pattern

instance (rule : LineRule) (p : Phrase) : Decidable (rule.Reveals p) :=
  inferInstanceAs (Decidable (_ ∧ _ ∧ _ ∧ _))

theorem Report.hasErrors_of_mem {r : Report} (h : r.Agrees) {f : Finding} (hm : f ∈ r.findings)
    (he : f.severity = .error) : r.hasErrors = true := by
  rw [h.flag, h.errors]
  exact List.countP_pos_iff.mpr ⟨f, hm, decide_eq_true he⟩

theorem Profile.hasErrors_of_reveals {profile : Profile} {rule : LineRule}
    (hm : rule ∈ profile.lineRules) {p : Phrase} (hr : rule.Reveals p) (hp : p.IsMarked)
    {before after : Text} (h : p.FitsAt (lastOr before none) (p.letters ++ after))
    (hh : p.IsHeld after) : (profile.review (before ++ (p.letters ++ after))).hasErrors = true := by
  obtain ⟨hsev, hexempt, hsource, hspelled⟩ := hr
  obtain ⟨line, hl, hs⟩ := h.exists_line hp hh
  obtain ⟨i, hi⟩ := List.mem_iff_getElem?.mp hl
  have hflags : rule.flags (Text.trim line) = true := by
    simp [LineRule.flags, hexempt, Regex.occursIn_of_somewhere (fun _ hf => hspelled.isSome hf) hs]
  have hsilent : rule.silencedBy (before ++ (p.letters ++ after)) = false := by
    simp [LineRule.silencedBy, hsource]
  have hf := mem_lineFindings.mpr ⟨i, line, hi, rule, hm, hsilent, hflags, rfl⟩
  exact Report.hasErrors_of_mem (profile.review_agrees _) (List.mem_append_left _ hf) hsev

end SnippetReview
