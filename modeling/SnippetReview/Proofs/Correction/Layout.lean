import SnippetReview.Proofs.Correction.NormalForm
import SnippetReview.Proofs.Text.Piecewise

namespace SnippetReview.Pattern

open Text

structure Matcher.StopsAt (m : Matcher) (c : Char) : Prop where
  width?_append : ∀ prev before after, m.width? prev (before ++ c :: after) = m.width? prev before
  width?_after : ∀ rest, m.width? (some c) rest = m.width? none rest

namespace Matcher.StopsAt

variable {m : Matcher} {c : Char} (hm : m.StopsAt c)
include hm

theorem rewrites_append {new : Text} {prev : Option Char} {before out after out' : Text}
    (h : Rewrites m new prev before out) (h' : Rewrites m new none after out') :
    Rewrites m new prev (before ++ c :: after) (out ++ c :: out') := by
  induction h with
  | @done prev =>
    have miss : m.width? prev (c :: after) = none := by
      rw [← m.width?_nil prev]
      exact hm.width?_append prev [] after
    exact .keep miss (h'.of_width? hm.width?_after)
  | keep miss _ ih => exact .keep ((hm.width?_append _ _ _).trans miss) ih
  | replace hit _ ih =>
    rw [List.append_assoc, List.append_assoc]
    refine .replace ?_ ih
    rw [← List.append_assoc, hm.width?_append, hit]

theorem piecewise_replaceAll {r : Regex} (hr : r.Realizes m) {new : Text} (hn : c ∉ new) :
    Piecewise c (r.replaceAll new) where
  append before after := by
    have h :=
      hm.rewrites_append (hr.rewrites_replaceAll new before) (hr.rewrites_replaceAll new after)
    exact h.unique (hr.rewrites_replaceAll new (before ++ c :: after))
  not_mem text ht hm := ((hr.rewrites_replaceAll new text).mem_or_mem hm).elim ht hn

end Matcher.StopsAt

def IsStop (c : Char) : Prop :=
  inWord (some c) = false ∧ gap.contains c = false

instance (c : Char) : Decidable (IsStop c) :=
  inferInstanceAs (Decidable (_ ∧ _))

section

variable {c : Char} (hc : IsStop c)
include hc

theorem inWord_head?_append_stop (before after : Text) :
    inWord (before ++ c :: after).head? = inWord before.head? := by
  cases before with
  | nil => exact hc.1
  | cons x before => rfl

theorem prefix_append_stop {letters : Text} (hl : c ∉ letters) {before after : Text} :
    letters <+: before ++ c :: after ↔ letters <+: before := by
  constructor
  · intro h
    rcases List.prefix_or_prefix_of_prefix h (List.prefix_append before _) with h | ⟨rest, rfl⟩
    · exact h
    · -- Letters that go on behind the text before the stop would hold the stop.
      cases rest with
      | nil => simp
      | cons x rest =>
        obtain ⟨rfl, -⟩ := List.cons_prefix_cons.mp ((List.prefix_append_right_inj before).mp h)
        exact absurd (List.mem_append_right _ List.mem_cons_self) hl
  · exact fun h => h.trans (List.prefix_append _ _)

theorem Phrase.fitsAt_append_stop {p : Phrase} (hl : c ∉ p.letters) {prev : Option Char}
    {before after : Text} : p.FitsAt prev (before ++ c :: after) ↔ p.FitsAt prev before := by
  by_cases h : p.letters <+: before
  · obtain ⟨rest, rfl⟩ := h
    rw [List.append_assoc, fitsAt_append, fitsAt_append, inWord_head?_append_stop hc]
  · exact ⟨fun hf => absurd ((prefix_append_stop hc hl).mp hf.1) h, fun hf => absurd hf.1 h⟩

theorem margin_append_stop (on : Bool) (before after : Text) :
    margin on (before ++ c :: after) = margin on before := by
  have h : (before ++ c :: after).takeWhile gap.contains = before.takeWhile gap.contains := by
    rw [List.takeWhile_append, List.takeWhile_cons_of_neg (by simp [hc.2]), List.append_nil]
    split
    · rename_i hl
      exact ((List.takeWhile_prefix _).eq_of_length hl).symm
    · rfl
  rw [margin, margin, h]

theorem Rewording.stopsAt {w : Rewording} (hl : c ∉ w.phrase.letters) : w.matcher.StopsAt c where
  width?_append prev before after := by
    have hb := margin_le w.padded before
    simp only [matcher, width?, margin_append_stop hc, List.take_append_of_le_length hb,
      List.drop_append_of_le_length hb, Phrase.fitsAt_append_stop hc hl]
    split
    · rename_i hf
      have hlen := hf.1.length_le
      rw [List.length_drop] at hlen
      rw [List.drop_append_of_le_length (by omega), margin_append_stop hc]
    · rfl
  width?_after rest := w.width?_congr hc.1 rest

theorem Rewording.piecewise_apply {w : Rewording} (hl : c ∉ w.phrase.letters) (hn : c ∉ w.new) :
    Piecewise c w.correction.apply :=
  (stopsAt hc hl).piecewise_replaceAll w.realizes hn

theorem Rewording.piecewise_applyAll {ws : List Rewording}
    (h : ∀ w ∈ ws, c ∉ w.phrase.letters ∧ c ∉ w.new) : Piecewise c (applyAll ws) := by
  induction ws with
  | nil => exact .refl c
  | cons w ws ih =>
    obtain ⟨⟨hl, hn⟩, hws⟩ := List.forall_mem_cons.mp h
    exact (ih hws).comp (piecewise_apply hc hl hn)

end

theorem Rewording.applyAll_eq_nil_iff {ws : List Rewording} {text : Text} :
    applyAll ws text = [] ↔ text = [] := by
  refine ⟨eq_nil_of_applyAll, ?_⟩
  rintro rfl
  induction ws with
  | nil => rfl
  | cons w ws ih =>
    have hw : w.correction.apply [] = [] :=
      Rewrites.done.unique (w.realizes.rewrites_replaceAll w.new [])
    exact (congrArg (applyAll ws) hw).trans ih

theorem Rewording.lines_applyAll {ws : List Rewording}
    (h : ∀ w ∈ ws, IsInline w.phrase.letters ∧ IsInline w.new) (text : Text) :
    lines (applyAll ws text) = (lines text).map (applyAll ws) := by
  have hreturn : Piecewise '\r' (applyAll ws) :=
    piecewise_applyAll (by decide) fun w hw => ⟨(h w hw).1.2, (h w hw).2.2⟩
  have hnewline : Piecewise '\n' (applyAll ws) :=
    piecewise_applyAll (by decide) fun w hw => ⟨(h w hw).1.1, (h w hw).2.1⟩
  exact hreturn.lines_eq_map (fun _ => applyAll_eq_nil_iff) hnewline text

end SnippetReview.Pattern

namespace SnippetReview

def Text.isPliant (c : Char) : Bool :=
  c.isAlpha || c == ' ' || c == '\t' || c == '&' || c == '|'

def Text.frame (text : Text) : Text :=
  text.filter fun c => !isPliant c

open Pattern Text

theorem Text.frame_append (s t : Text) : frame (s ++ t) = frame s ++ frame t :=
  List.filter_append ..

theorem Text.frame_eq_nil {text : Text} (h : ∀ c ∈ text, isPliant c = true) : frame text = [] :=
  List.filter_eq_nil_iff.mpr fun c hc => by simp [h c hc]

theorem Text.count_eq_of_frame_eq {s t : Text} (h : frame s = frame t) {c : Char}
    (hc : isPliant c = false) : s.count c = t.count c := by
  have count_frame (text : Text) : (frame text).count c = text.count c :=
    List.count_filter (by simp [hc])
  rw [← count_frame s, h, count_frame]

theorem Pattern.Rewrites.frame_eq {m : Matcher} {new : Text} {prev : Option Char} {text out : Text}
    (h : Rewrites m new prev text out)
    (hm : ∀ prev found rest, m.width? prev (found ++ rest) = some found.length →
      frame new = frame found) : frame out = frame text := by
  induction h with
  | done => rfl
  | @keep _ x rest out _ _ ih =>
    rw [← List.singleton_append, ← List.singleton_append (l := rest), frame_append, frame_append,
      ih]
  | replace hit _ ih => rw [frame_append, frame_append, hm _ _ _ hit, ih]

theorem Pattern.isPliant_of_gap {c : Char} (h : gap.contains c = true) : isPliant c = true := by
  simp only [gap, CharClass.contains, Bool.or_false, Bool.or_eq_true,
    CharClass.contains_single] at h
  rcases h with rfl | rfl <;> decide

namespace Pattern.Rewording

theorem frame_apply {w : Rewording} (hw : frame w.new = frame w.phrase.letters) (text : Text) :
    frame (w.correction.apply text) = frame text := by
  refine (w.realizes.rewrites_replaceAll w.new text).frame_eq fun prev found rest hit => ?_
  obtain ⟨before, after, rfl, hb, ha⟩ := found_eq hit
  rw [frame_append, frame_append, frame_eq_nil fun c hc => isPliant_of_gap (hb c hc).2,
    frame_eq_nil fun c hc => isPliant_of_gap (ha c hc).2, List.append_nil, List.nil_append, hw]

theorem frame_applyAll {ws : List Rewording} (h : ∀ w ∈ ws, frame w.new = frame w.phrase.letters)
    (text : Text) : frame (applyAll ws text) = frame text := by
  induction ws generalizing text with
  | nil => rfl
  | cons w ws ih =>
    obtain ⟨hw, hws⟩ := List.forall_mem_cons.mp h
    calc frame (applyAll ws (w.correction.apply text)) = frame (w.correction.apply text) := ih hws _
      _ = frame text := frame_apply hw text

end Pattern.Rewording

end SnippetReview
