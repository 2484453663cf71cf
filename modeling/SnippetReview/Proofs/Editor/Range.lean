import SnippetReview.Editor.Diagnostic
import SnippetReview.Proofs.Editor.Place
import SnippetReview.Proofs.Report

namespace SnippetReview.Editor

open Text

instance : LE Position :=
  ⟨fun p q => p.line < q.line ∨ p.line = q.line ∧ p.character ≤ q.character⟩

instance (p q : Position) : Decidable (p ≤ q) :=
  inferInstanceAs (Decidable (_ ∨ _))

structure Range.Inside (r outer : Range) : Prop where
  start : outer.start ≤ r.start
  ordered : r.start ≤ r.finish
  finish : r.finish ≤ outer.finish

instance (r outer : Range) : Decidable (r.Inside outer) :=
  decidable_of_iff (outer.start ≤ r.start ∧ r.start ≤ r.finish ∧ r.finish ≤ outer.finish)
    ⟨fun ⟨hs, ho, hf⟩ => ⟨hs, ho, hf⟩, fun ⟨hs, ho, hf⟩ => ⟨hs, ho, hf⟩⟩

theorem toNat_ofNat_word {n m : Nat} (hn : n ≤ m) (hm : m < UInt32.size) :
    (UInt32.ofNat n).toNat = n :=
  UInt32.toNat_ofNat_of_lt' (Nat.lt_of_le_of_lt hn hm)

namespace Layout

variable {text : Text}

theorem length16_le_of_line? {n : Nat} {line : Text} (h : (ofNewlines text).line? n = some line) :
    length16 line ≤ length16 text := by
  obtain ⟨after, ht, -⟩ := text_eq_of_line? h
  rw [text_ofNewlines] at ht
  rw [ht, length16_append, length16_append]
  omega

theorem length_rows_le (text : Text) : (ofNewlines text).rows.length ≤ length16 text := by
  rw [ofNewlines, length_rows_newlinesFrom]
  exact List.count_le_length.trans (length_le_length16 text)

section

variable (h : length16 text < UInt32.size)
include h

theorem line_endOf : (Position.endOf text).line.toNat = (ofNewlines text).rows.length := by
  rw [endOf_eq]
  exact toNat_ofNat_word (length_rows_le text) h

theorem character_endOf :
    (Position.endOf text).character.toNat = length16 (ofNewlines text).last := by
  rw [endOf_eq]
  exact toNat_ofNat_word (length16_le_of_line? (line?_length _)) h

theorem offset?_finish : (ofNewlines text).offset? (Range.full text).finish = some text.length := by
  have hp := place?_last (ofNewlines text)
  rw [text_ofNewlines] at hp
  rw [offset?, Range.full, line_endOf h, character_endOf h, hp]

theorem selection?_full : (ofNewlines text).selection? (Range.full text) = some text := by
  have hs : (ofNewlines text).offset? (Range.full text).start = some 0 := place?_start _
  simp [selection?, hs, offset?_finish h, text_ofNewlines]

end

end Layout

def Range.onLine (n : Nat) (shown : Text) : Range :=
  ⟨⟨UInt32.ofNat n, 0⟩, ⟨UInt32.ofNat n, UInt32.ofNat (length16 shown)⟩⟩

theorem Range.ofFinding_eq {f : Finding} {content line : Text}
    (hl : (lines content)[f.line - 1]? = some line) :
    Range.ofFinding f content = onLine (f.line - 1) line := by
  simp [ofFinding, onLine, hl]

section

variable {content : Text} (h : length16 content < UInt32.size) {n : Nat} {line shown : Text}
  (hl : (Layout.ofNewlines content).line? n = some line)
include h hl

theorem toNat_line : (UInt32.ofNat n).toNat = n :=
  toNat_ofNat_word ((Layout.le_length_of_line? hl).trans (Layout.length_rows_le content)) h

variable (hs : shown <+: line)
include hs

theorem toNat_length16 : (UInt32.ofNat (length16 shown)).toNat = length16 shown :=
  toNat_ofNat_word ((length16_mono hs).trans (Layout.length16_le_of_line? hl)) h

theorem Layout.selection?_onLine :
    (ofNewlines content).selection? (Range.onLine n shown) = some shown :=
  have hn := toNat_line h hl
  selection?_of_line? hl hs ⟨hn, rfl⟩ ⟨hn, toNat_length16 h hl hs⟩

theorem Range.inside_onLine : (onLine n shown).Inside (full content) := by
  have hn := toNat_line h hl
  have hline := Layout.line_endOf h
  refine ⟨?_, .inr ⟨rfl, UInt32.zero_le⟩, ?_⟩
  · rcases Nat.eq_zero_or_pos n with rfl | hpos
    · exact .inr ⟨rfl, UInt32.zero_le⟩
    · exact .inl (UInt32.lt_iff_toNat_lt.mpr (by rw [onLine, hn]; exact hpos))
  · rcases Nat.lt_or_eq_of_le (Layout.le_length_of_line? hl) with hlt | rfl
    · exact .inl (UInt32.lt_iff_toNat_lt.mpr (by rw [onLine, hn, full, hline]; exact hlt))
    · -- The last line ends where the document does.
      refine .inr ⟨UInt32.toNat.inj (by rw [onLine, hn, full, hline]), ?_⟩
      rw [UInt32.le_iff_toNat_le, onLine, toNat_length16 h hl hs, full, Layout.character_endOf h]
      rw [Layout.line?_length] at hl
      obtain rfl := Option.some.inj hl
      exact length16_mono hs

end

/-- The range of a document is all of it, with lines that end at newlines. The range of each
diagnostic lies within it and selects the line of the finding. -/
theorem diagnostics_within {content : Text} (h : length16 content < UInt32.size) :
    ((Layout.ofNewlines content).offset? (Range.full content).start = some 0 ∧
      (Layout.ofNewlines content).offset? (Range.full content).finish = some content.length ∧
      (Layout.ofNewlines content).selection? (Range.full content) = some content) ∧
    ∀ (profile : Profile) f, f ∈ profile.findings content →
      (Diagnostic.ofFinding f content).range.Inside (Range.full content) ∧
      1 ≤ f.line ∧ ∃ line, (lines content)[f.line - 1]? = some line ∧
        (Layout.ofNewlines content).selection? (Diagnostic.ofFinding f content).range =
          some line := by
  refine ⟨⟨Layout.place?_start _, Layout.offset?_finish h, Layout.selection?_full h⟩, ?_⟩
  intro profile f hf
  obtain ⟨hone, shown, hshown⟩ := Profile.exists_line_of_mem_findings hf
  obtain ⟨line, hl, hs⟩ := Layout.line?_of_lines hshown
  have hr : (Diagnostic.ofFinding f content).range = Range.onLine (f.line - 1) shown :=
    Range.ofFinding_eq hshown
  rw [hr]
  exact ⟨Range.inside_onLine h hl hs, hone, shown, hshown, Layout.selection?_onLine h hl hs⟩

theorem diagnostics_within_second_line :
    let rule : LineRule := ⟨[], .warning, [], .chars (.single ';'), none, none⟩
    let profile : Profile := ⟨[], none, [rule], [⟨[], .error, [], '(', ')'⟩], []⟩
    let content : Text := ['(', '\r', '\n', '😀', ';', '\r', '\n']
    let range (f : Finding) := (Diagnostic.ofFinding f content).range
    profile.findings content = [rule.finding 2, ⟨1, [], .error⟩] ∧
      range (rule.finding 2) = ⟨⟨1, 0⟩, ⟨1, 3⟩⟩ ∧
      (range (rule.finding 2)).Inside (Range.full content) ∧
      (Layout.ofNewlines content).selection? (range (rule.finding 2)) = some ['😀', ';'] ∧
      (Layout.ofNewlines content).selection? (range ⟨1, [], .error⟩) = some ['('] := by
  intro rule profile content range
  have hf : profile.findings content = [rule.finding 2, ⟨1, [], .error⟩] := by decide
  obtain ⟨-, h⟩ := @diagnostics_within content (by decide)
  obtain ⟨hinside, -, line, hl, hline⟩ := h profile (rule.finding 2) (by simp [hf])
  obtain ⟨-, -, first, hfirst, hbalance⟩ := h profile ⟨1, [], .error⟩ (by simp [hf])
  cases hl
  cases hfirst
  exact ⟨hf, by decide, hinside, hline, hbalance⟩

end SnippetReview.Editor
