import Mathlib.Data.List.Pairwise
import SnippetReview.Proofs.Correction.Rewording

/-!
Rewordings that lead to the same text in either order. Each leaves the phrases of the other as they
are, and what both take along are the gaps between two padded phrases.
-/

namespace SnippetReview

namespace Pattern

/-! ### Passages in which no match begins -/

def Matcher.Passes (m : Matcher) (prev : Option Char) (s rest : Text) : Prop :=
  ∀ k < s.length, m.width? (lastOr (s.take k) prev) (s.drop k ++ rest) = none

section

variable {m : Matcher} {new : Text} {prev : Option Char} {x : Char} {s t rest out : Text}

theorem Matcher.passes_cons : m.Passes prev (x :: s) rest ↔
    m.width? prev (x :: (s ++ rest)) = none ∧ m.Passes (some x) s rest := by
  constructor
  · intro h
    refine ⟨h 0 (by simp), fun k hk => ?_⟩
    simpa [lastOr_cons] using h (k + 1) (by simpa using hk)
  · rintro ⟨h0, h⟩ k hk
    cases k with
    | zero => exact h0
    | succ k => simpa [lastOr_cons] using h k (by simpa using hk)

theorem Matcher.Passes.append (h : m.Passes prev s (t ++ rest))
    (ht : m.Passes (lastOr s prev) t rest) : m.Passes prev (s ++ t) rest := by
  induction s generalizing prev with
  | nil => exact ht
  | cons x s ih =>
    obtain ⟨h0, h⟩ := passes_cons.mp h
    rw [lastOr_cons] at ht
    rw [← List.append_assoc] at h0
    exact passes_cons.mpr ⟨h0, ih h ht⟩

theorem Matcher.Hits.exists_found {text : Text} (h : m.Hits prev text) :
    ∃ found rest, text = found ++ rest ∧ m.width? prev (found ++ rest) = some found.length := by
  obtain ⟨n, hn⟩ := Option.isSome_iff_exists.mp h
  obtain ⟨-, hl⟩ := m.bounds _ _ _ hn
  refine ⟨text.take n, text.drop n, (List.take_append_drop n text).symm, ?_⟩
  rw [List.take_append_drop, hn, List.length_take_of_le hl]

theorem Matcher.Passes.not_hits (h : m.Passes prev s rest) (hs : s ≠ []) :
    ¬ m.Hits prev (s ++ rest) := by
  have h0 := h 0 (List.length_pos_iff.mpr hs)
  simpa [Matcher.Hits, lastOr_nil] using h0

theorem Matcher.Passes.rewrites (h : m.Passes prev s rest)
    (hr : Rewrites m new (lastOr s prev) rest out) :
    Rewrites m new prev (s ++ rest) (s ++ out) := by
  induction s generalizing prev with
  | nil => exact hr
  | cons x s ih =>
    obtain ⟨h0, h⟩ := passes_cons.mp h
    rw [lastOr_cons] at hr
    exact .keep h0 (ih h hr)

theorem Matcher.Passes.exists_rewrites (h : m.Passes prev s rest)
    (hr : Rewrites m new prev (s ++ rest) out) :
    ∃ tail, out = s ++ tail ∧ Rewrites m new (lastOr s prev) rest tail := by
  induction s generalizing prev out with
  | nil => exact ⟨out, rfl, hr⟩
  | cons x s ih =>
    obtain ⟨h0, h⟩ := passes_cons.mp h
    obtain ⟨out, rfl, ho⟩ := hr.of_miss h0
    obtain ⟨tail, rfl, ht⟩ := ih h ho
    rw [← lastOr_cons x s prev] at ht
    exact ⟨tail, rfl, ht⟩

end

/-! ### What a rewording leaves as it is -/

def GapFree (s : Text) : Prop :=
  ∀ x ∈ s, gap.contains x = false

instance (s : Text) : Decidable (GapFree s) :=
  List.decidableBAll (fun x => gap.contains x = false) s

theorem GapFree.head? {s : Text} (h : GapFree s) : s.head?.any gap.contains = false := by
  cases s with
  | nil => rfl
  | cons x s => exact h x List.mem_cons_self

theorem GapFree.getLast? {s : Text} (h : GapFree s) : s.getLast?.any gap.contains = false := by
  rcases List.eq_nil_or_concat s with rfl | ⟨s, x, rfl⟩
  · rfl
  · simpa using h x (by simp)

namespace Rewording

def newPhrase (w : Rewording) : Phrase :=
  ⟨w.phrase.opens, w.new, false, w.new_ne⟩

variable {w v : Rewording} {prev before : Option Char} {s t found rest text out : Text}

theorem rewrites_congr (h : inWord before = inWord prev)
    (hr : Rewrites w.matcher w.new prev text out) : Rewrites w.matcher w.new before text out :=
  hr.of_width? (width?_congr h)

theorem width?_of_rest (hit : w.width? prev (found ++ rest) = some found.length)
    (hr : inWord out.head? = inWord rest.head?)
    (hg : w.padded = true → out.head?.any gap.contains = false) :
    w.width? prev (found ++ out) = some found.length := by
  obtain ⟨gaps, after, hf, hb, ha, -, hfit⟩ := width?_eq_iff.mp hit
  refine width?_eq_iff.mpr ⟨gaps, after, hf, hb, ha, hg, hfit.congr rfl ?_⟩
  cases after with
  | nil => exact hr
  | cons => rfl

theorem rewrites_gaps (hs : ∀ x ∈ s, w.padded = true ∧ gap.contains x = true)
    (ht : ∀ x ∈ t, w.padded = true ∧ gap.contains x = true)
    (hb : inWord (lastOr t before) = inWord (lastOr s prev))
    (hh : w.matcher.Hits (lastOr s prev) text)
    (h : Rewrites w.matcher w.new prev (s ++ text) out) :
    Rewrites w.matcher w.new before (t ++ text) out := by
  obtain ⟨found, rest, rfl, hit⟩ := hh.exists_found
  have hne : found ≠ [] := Matcher.found_ne_nil hit
  have hs' : w.width? prev ((s ++ found) ++ rest) = some (s ++ found).length := by
    rw [List.append_assoc, width?_gaps hs, List.length_append]
    exact congrArg _ hit
  have ht' : w.width? before ((t ++ found) ++ rest) = some (t ++ found).length := by
    rw [List.append_assoc, width?_gaps ht, width?_congr hb, List.length_append]
    exact congrArg _ hit
  rw [← List.append_assoc] at h ⊢
  obtain ⟨tail, rfl, hr⟩ := h.of_hit hs'
  refine .replace ht' ?_
  rwa [List.getLast?_append_of_ne_nil _ hne] at hr ⊢

theorem writes_newPhrase (w : Rewording) : w.matcher.Writes w.newPhrase := by
  intro prev found rest out hit
  obtain ⟨gaps, after, -, hb, -, -, -, ho, -⟩ := width?_eq_iff.mp hit
  refine ⟨List.prefix_append _ _, fun hw => ?_, nofun⟩
  have hne := ho hw
  rw [List.head?_append_of_ne_nil _ w.phrase.letters_ne] at hne
  rw [List.head?_append_of_ne_nil _ w.newPhrase.letters_ne]
  rcases List.eq_nil_or_concat gaps with rfl | ⟨gaps, x, rfl⟩
  · exact fun he => hne (he.trans w.first_edge)
  · -- Neither a gap nor the head of a padded phrase belongs to a word.
    obtain ⟨hp, hx⟩ := hb x (by simp)
    rw [List.concat_eq_append, lastOr_append, (w.padding hp).2.1] at hne
    exact absurd (not_inWord_of_gap hx) hne

theorem passes_of_skips (hs : w.phrase.Skips (s ++ t))
    (hl : w.padded = true → s.getLast?.any gap.contains = false) :
    w.matcher.Passes prev s (t ++ rest) := by
  intro k hk
  rw [← Option.not_isSome_iff_eq_none]
  intro h
  rcases hits_append h with ⟨i, hi, hf⟩ | ⟨hg, -⟩
  · rw [List.length_drop] at hi
    refine hs.not_fitsAt (k := k + i) (by rw [List.length_append]; omega) prev rest ?_
    rw [List.take_append_of_le_length (by omega), List.drop_append_of_le_length (by omega),
      List.append_assoc, List.take_add, lastOr_append, ← List.drop_drop]
    exact hf
  · have hd : s.drop k ≠ [] := by simpa using hk
    obtain ⟨hw, hx⟩ := hg _ (List.getLast_mem hd)
    have hn := hl hw
    rw [← List.take_append_drop k s, List.getLast?_append_of_ne_nil _ hd,
      List.getLast?_eq_some_getLast hd, Option.any_some, hx] at hn
    cases hn

theorem passes_gaps {on : Bool} (hg : ∀ x ∈ s, on = true ∧ gap.contains x = true)
    (hw : on = true → GapFree w.phrase.letters)
    (hr : on = true → w.padded = true → ¬ w.matcher.Hits (lastOr s prev) rest) :
    w.matcher.Passes prev s rest := by
  intro k hk
  rw [← Option.not_isSome_iff_eq_none]
  intro h
  rcases hits_append h with ⟨i, hi, ⟨hp, -⟩⟩ | ⟨hp, hh⟩
  · obtain ⟨x, tail, hx⟩ : ∃ x tail, (s.drop k).drop i = x :: tail :=
      List.exists_cons_of_length_pos (by rw [List.length_drop]; omega)
    have hm : x ∈ s := List.mem_of_mem_drop (List.mem_of_mem_drop (hx ▸ List.mem_cons_self))
    obtain ⟨hon, hxg⟩ := hg x hm
    obtain ⟨after, ha⟩ := hp
    have hh : (w.phrase.letters ++ after).head?.any gap.contains = false := by
      rw [List.head?_append_of_ne_nil _ w.phrase.letters_ne]
      exact (hw hon).head?
    rw [ha, hx] at hh
    simp [hxg] at hh
  · obtain ⟨x, hx⟩ := List.exists_mem_of_ne_nil (s.drop k) (by simpa using hk)
    refine hr (hg x (List.mem_of_mem_drop hx)).1 (hp x hx).1 ?_
    rwa [← lastOr_append, List.take_append_drop] at hh

/-! ### Rewordings that keep apart -/

def core (w : Rewording) : Text :=
  w.new.tail.dropLast

structure Tidy (w : Rewording) : Prop where
  letters : GapFree w.phrase.letters
  new : w.padded = false → GapFree w.new
  padded_new : w.padded = true → w.new = (' ' :: w.core) ++ [' ']
  padded_core : w.padded = true → GapFree w.core ∧ w.core ≠ []

instance (w : Rewording) : Decidable w.Tidy :=
  decidable_of_iff (GapFree w.phrase.letters ∧ (w.padded = false → GapFree w.new) ∧
      (w.padded = true → w.new = (' ' :: w.core) ++ [' ']) ∧
      (w.padded = true → GapFree w.core ∧ w.core ≠ []))
    ⟨fun ⟨hl, hn, hp, hc⟩ => ⟨hl, hn, hp, hc⟩, fun ⟨hl, hn, hp, hc⟩ => ⟨hl, hn, hp, hc⟩⟩

/-- Neither phrase begins within the other or within the new text for the other, and no new text
begins within a phrase. -/
structure Apart (w v : Rewording) : Prop where
  letters : v.phrase.Skips w.phrase.letters
  new : v.phrase.Skips w.new
  written : w.newPhrase.Skips v.phrase.letters
  tidy : w.padded = true ∨ v.padded = true → w.Tidy

instance (w v : Rewording) : Decidable (w.Apart v) :=
  decidable_of_iff (v.phrase.Skips w.phrase.letters ∧ v.phrase.Skips w.new ∧
      w.newPhrase.Skips v.phrase.letters ∧ (w.padded = true ∨ v.padded = true → w.Tidy))
    ⟨fun ⟨hl, hn, hw, ht⟩ => ⟨hl, hn, hw, ht⟩, fun ⟨hl, hn, hw, ht⟩ => ⟨hl, hn, hw, ht⟩⟩

theorem Tidy.exists_not_gap (h : w.Tidy) : ∃ x ∈ w.new, gap.contains x = false := by
  cases hw : w.padded with
  | false =>
    obtain ⟨x, hx⟩ := List.exists_mem_of_ne_nil _ w.new_ne
    exact ⟨x, hx, h.new hw x hx⟩
  | true =>
    obtain ⟨hg, hne⟩ := h.padded_core hw
    obtain ⟨x, hx⟩ := List.exists_mem_of_ne_nil _ hne
    rw [h.padded_new hw]
    exact ⟨x, by simp [hx], hg x hx⟩

theorem inWord_getLast?_found (hw : w.padded = true)
    (hit : w.width? prev (found ++ rest) = some found.length) :
    inWord found.getLast? = inWord (some ' ') := by
  rw [← (w.keepsEdges.2 _ _ _ hit).2, w.last_edge, (w.padding hw).2.2]
  decide

theorem gap_blank (hw : w.padded = true) :
    ∀ x ∈ [' '], w.padded = true ∧ gap.contains x = true := by
  intro x hx
  obtain rfl := List.mem_singleton.mp hx
  exact ⟨hw, by decide⟩

theorem Tidy.passes_head (h : w.Tidy) (hw : w.padded = true) (hs : v.phrase.Skips w.new) :
    v.matcher.Passes prev (' ' :: w.core) ([' '] ++ rest) := by
  obtain ⟨hg, hne⟩ := h.padded_core hw
  rw [h.padded_new hw] at hs
  refine passes_of_skips hs fun _ => ?_
  rw [List.getLast?_cons_of_ne_nil hne]
  exact hg.getLast?

namespace Apart

theorem hits_text (hw : Apart w v) (h : Rewrites w.matcher w.new prev text out)
    (hb : inWord before = inWord prev) (hv : v.matcher.Hits before out) :
    v.matcher.Hits prev text := by
  induction h generalizing before with
  | done => exact absurd hv (by simp [Matcher.Hits, Matcher.width?_nil])
  | @keep prev x rest out miss h ih =>
    by_cases hx : v.padded = true ∧ gap.contains x = true
    · rw [hits_gap hx.1 hx.2] at hv ⊢
      exact ih rfl hv
    · have hf := fitsAt_of_hits hv fun hp => by simpa [hp] using hx
      have hr : Rewrites w.matcher w.newPhrase.letters prev (x :: rest) (x :: out) := .keep miss h
      exact hits_of_fitsAt (hr.fitsAt_text w.keepsEdges w.writes_newPhrase hw.written hb hf)
  | @replace prev found rest out hit h ih =>
    rcases hits_append hv with ⟨k, hk, hf⟩ | ⟨hg, -⟩
    · exact absurd hf (hw.new.not_fitsAt hk _ _)
    · obtain ⟨y, hy⟩ := List.exists_mem_of_ne_nil _ w.new_ne
      obtain ⟨x, hx, hn⟩ := (hw.tidy (.inr (hg y hy).1)).exists_not_gap
      rw [(hg x hx).2] at hn
      cases hn

theorem width?_out (hw : Apart w v) (h : Rewrites w.matcher w.new prev text out)
    (hv : v.width? prev text = none) : v.width? prev out = none := by
  rw [← Option.not_isSome_iff_eq_none] at hv ⊢
  exact fun ho => hv (hw.hits_text h rfl ho)

theorem fitsAt_out (hv : Apart v w) (h : Rewrites w.matcher w.new prev text out)
    (hf : v.phrase.FitsAt prev text) : v.phrase.FitsAt prev out := by
  obtain ⟨after, rfl⟩ := hf.1
  have hp : w.matcher.Passes prev v.phrase.letters after :=
    passes_of_skips (t := []) (by simpa using hv.letters) fun hw =>
      (hv.tidy (.inr hw)).letters.getLast?
  obtain ⟨tail, rfl, ht⟩ := hp.exists_rewrites h
  exact hf.congr rfl (ht.inWord_head? w.keepsEdges)

theorem head?_out (hv : Apart v w) (hw : w.padded = true)
    (hn : v.padded = true → ¬ v.matcher.Hits prev text) (h : Rewrites v.matcher v.new prev text out)
    (ht : text.head?.any gap.contains = false) : out.head?.any gap.contains = false := by
  cases h with
  | done => rfl
  | keep => exact ht
  | replace hit =>
    have hp : v.padded = false := by
      rw [← Bool.not_eq_true]
      intro hp
      exact hn hp (Option.isSome_of_eq_some hit)
    rw [List.head?_append_of_ne_nil _ v.new_ne]
    exact ((hv.tidy (.inr hw)).new hp).head?

theorem passes_letters (hw : Apart w v) (hv : Apart v w) {gaps : Text}
    (hg : ∀ x ∈ gaps, w.padded = true ∧ gap.contains x = true) (rest : Text) :
    v.matcher.Passes prev (gaps ++ w.phrase.letters) rest := by
  have hl (prev : Option Char) : v.matcher.Passes prev w.phrase.letters rest :=
    passes_of_skips (t := []) (by simpa using hw.letters) fun hp =>
      (hw.tidy (.inr hp)).letters.getLast?
  have hv : w.padded = true → GapFree v.phrase.letters := fun hp => (hv.tidy (.inr hp)).letters
  exact (passes_gaps hg hv fun _ _ => (hl _).not_hits w.phrase.letters_ne).append (hl _)

end Apart

/-! ### Both orders -/

def Joins (w v : Rewording) (prev : Option Char) (text : Text) : Prop :=
  ∀ one other, Rewrites w.matcher w.new prev text one → Rewrites v.matcher v.new prev text other →
    ∃ both, Rewrites v.matcher v.new prev one both ∧ Rewrites w.matcher w.new prev other both

theorem Joins.symm (h : w.Joins v prev text) : v.Joins w prev text := by
  intro one other h1 h2
  obtain ⟨both, hb1, hb2⟩ := h other one h2 h1
  exact ⟨both, hb2, hb1⟩

namespace Apart

theorem joins_of_misses {x : Char} (hw : Apart w v) (hv : Apart v w)
    (hwx : w.width? prev (x :: rest) = none) (hvx : v.width? prev (x :: rest) = none)
    (h : w.Joins v (some x) rest) : w.Joins v prev (x :: rest) := by
  intro one other h1 h2
  obtain ⟨one, rfl, h1'⟩ := h1.of_miss hwx
  obtain ⟨other, rfl, h2'⟩ := h2.of_miss hvx
  obtain ⟨both, hb1, hb2⟩ := h one other h1' h2'
  exact ⟨x :: both, .keep (hw.width?_out h1 hvx) hb1, .keep (hv.width?_out h2 hwx) hb2⟩

section

variable (hw : Apart w v) (hv : Apart v w)
  (hit : w.width? prev (found ++ rest) = some found.length)
include hw hv hit

theorem passes_found
    (hn : w.padded = true → v.padded = true → ¬ v.matcher.Hits found.getLast? rest) :
    v.matcher.Passes prev found rest := by
  obtain ⟨gaps, after, rfl, hb, ha⟩ := found_eq hit
  have hne := Matcher.found_ne_nil (m := w.matcher) hit
  rw [← lastOr_of_ne_nil hne prev, ← List.append_assoc, lastOr_append] at hn
  rw [← List.append_assoc]
  exact (passes_letters hw hv hb _).append
    (passes_gaps ha (fun hp => (hv.tidy (.inr hp)).letters) hn)

theorem passes_new
    (hn : w.padded = true → v.padded = true → ¬ v.matcher.Hits found.getLast? rest)
    (h : Rewrites w.matcher w.new found.getLast? rest out) :
    v.matcher.Passes prev w.new out := by
  by_cases hp : w.padded = true ∧ v.padded = true
  · have ht := hw.tidy (.inl hp.1)
    rw [ht.padded_new hp.1]
    refine (ht.passes_head hp.1 hw.new).append (passes_gaps (gap_blank hp.1) ?_ ?_)
    · intro _
      exact (hv.tidy (.inl hp.2)).letters
    · intro _ _ hh
      exact hn hp.1 hp.2 (hw.hits_text h (inWord_getLast?_found hp.1 hit).symm hh)
  · refine passes_of_skips (t := []) (by simpa using hw.new) fun hq => ?_
    exact ((hw.tidy (.inr hq)).new (by simpa [hq] using hp)).getLast?

theorem joins_of_not_adjacent
    (hn : w.padded = true → v.padded = true → ¬ v.matcher.Hits found.getLast? rest)
    (h : w.Joins v found.getLast? rest) : w.Joins v prev (found ++ rest) := by
  intro one other h1 h2
  have hne := Matcher.found_ne_nil (m := w.matcher) hit
  obtain ⟨one, rfl, ho1⟩ := h1.of_hit hit
  obtain ⟨other, rfl, ho2⟩ := (passes_found hw hv hit hn).exists_rewrites h2
  rw [lastOr_of_ne_nil hne] at ho2
  obtain ⟨both, hb1, hb2⟩ := h one other ho1 ho2
  refine ⟨w.new ++ both, ?_, ?_⟩
  · refine (passes_new hw hv hit hn ho1).rewrites (rewrites_congr ?_ hb1)
    rw [lastOr_of_ne_nil w.new_ne]
    exact (w.keepsEdges.2 _ _ _ hit).2
  · obtain ⟨-, -, -, -, -, hr, -⟩ := width?_eq_iff.mp hit
    have ho : w.padded = true → other.head?.any gap.contains = false :=
      fun hp => hv.head?_out hp (hn hp) ho2 (hr hp)
    exact .replace (width?_of_rest hit (ho2.inWord_head? v.keepsEdges) ho) hb2

end

section

variable (hwp : w.padded = true)
include hwp

theorem passes_between (hw : Apart w v) (hv : Apart v w)
    (hs : ∀ x ∈ s, w.padded = true ∧ gap.contains x = true)
    (hf : v.phrase.FitsAt (lastOr s before) rest) : w.matcher.Passes before s rest := by
  refine passes_gaps hs (fun _ => (hw.tidy (.inl hwp)).letters) fun _ _ hx => ?_
  obtain ⟨rest, rfl⟩ := hf.1
  have hl : w.matcher.Passes (lastOr s before) ([] ++ v.phrase.letters) rest :=
    passes_letters hv hw (by simp) rest
  exact hl.not_hits v.phrase.letters_ne hx

variable (hvp : v.padded = true)
include hvp

-- After the new text, too, a padded phrase takes along the gap before it.
theorem rewrites_after_new (hw : Apart w v)
    (hs : ∀ x ∈ s, v.padded = true ∧ gap.contains x = true)
    (hb : inWord (lastOr s before) = inWord (some ' '))
    (hh : v.matcher.Hits (lastOr s before) rest)
    (h : Rewrites v.matcher v.new before (s ++ rest) out) :
    Rewrites v.matcher v.new prev (w.new ++ rest) ((' ' :: w.core) ++ out) := by
  have ht := hw.tidy (.inl hwp)
  rw [ht.padded_new hwp, List.append_assoc]
  exact (ht.passes_head hwp hw.new).rewrites (rewrites_gaps hs (gap_blank hvp) hb.symm hh h)

-- A padded phrase takes along the blank that the new text after it begins with.
theorem rewrites_before_new (hv : Apart v w)
    (hs : ∀ x ∈ s, w.padded = true ∧ gap.contains x = true)
    (hf : w.phrase.FitsAt (lastOr s prev) (w.phrase.letters ++ (v.new ++ rest)))
    (h : Rewrites w.matcher w.new before (v.new ++ rest) out) :
    ∃ tail, out = ' ' :: tail ∧
      Rewrites w.matcher w.new prev ((s ++ w.phrase.letters) ++ (v.new ++ rest))
        (w.new ++ tail) := by
  have ht := hv.tidy (.inl hvp)
  have hpass : w.matcher.Passes before (' ' :: v.core) ([' '] ++ rest) := ht.passes_head hvp hv.new
  have hm := (Matcher.passes_cons.mp hpass).1
  obtain ⟨hg, hne⟩ := ht.padded_core hvp
  rw [ht.padded_new hvp, List.append_assoc, List.cons_append] at h hf ⊢
  obtain ⟨tail, rfl, hr⟩ := h.of_miss hm
  have hit : w.width? prev ((s ++ (w.phrase.letters ++ [' '])) ++ (v.core ++ ([' '] ++ rest))) =
      some (s ++ (w.phrase.letters ++ [' '])).length := by
    refine width?_eq_iff.mpr ⟨s, [' '], rfl, hs, gap_blank hwp, fun _ => ?_, hf⟩
    rw [List.head?_append_of_ne_nil _ hne]
    exact hg.head?
  have hout : Rewrites w.matcher w.new prev
      ((s ++ (w.phrase.letters ++ [' '])) ++ (v.core ++ ([' '] ++ rest))) (w.new ++ tail) := by
    refine .replace hit ?_
    rw [← List.append_assoc, List.getLast?_append_of_ne_nil _ (List.cons_ne_nil _ _)]
    exact hr
  refine ⟨tail, rfl, ?_⟩
  simpa using hout

-- Two padded phrases next to each other both take the gaps between them along.
theorem joins_of_adjacent (hw : Apart w v) (hv : Apart v w)
    (hit : w.width? prev (found ++ rest) = some found.length)
    (hh : v.matcher.Hits found.getLast? rest)
    (ih : ∀ prev text, text.length < (found ++ rest).length → w.Joins v prev text) :
    w.Joins v prev (found ++ rest) := by
  intro one other h1 h2
  have hlast := inWord_getLast?_found hwp hit
  have hne := Matcher.found_ne_nil (m := w.matcher) hit
  obtain ⟨one, rfl, ho1⟩ := h1.of_hit hit
  obtain ⟨gaps, after, rfl, hb, ha, hr, hfit⟩ := width?_eq_iff.mp hit
  have hga : ∀ x ∈ after, v.padded = true ∧ gap.contains x = true := fun x hx => ⟨hvp, (ha x hx).2⟩
  rw [← lastOr_of_ne_nil hne prev, ← List.append_assoc, lastOr_append] at hh ho1 hlast
  have hlt : (after ++ rest).length < (gaps ++ (w.phrase.letters ++ after) ++ rest).length := by
    have h0 : 0 < w.phrase.letters.length := List.length_pos_iff.mpr w.phrase.letters_ne
    simp only [List.length_append]
    omega
  have h2 : Rewrites v.matcher v.new prev ((gaps ++ w.phrase.letters) ++ (after ++ rest))
      other := by
    simpa using h2
  obtain ⟨other, rfl, ho2⟩ := (passes_letters hw hv hb _).exists_rewrites h2
  generalize lastOr (gaps ++ w.phrase.letters) prev = start at hh ho1 ho2 hlast
  have hfits : v.phrase.FitsAt (lastOr after start) rest := fitsAt_of_hits hh fun _ => hr hwp
  have hpass := passes_between hwp hw hv ha hfits
  obtain ⟨both, hb1, hb2⟩ := ih start (after ++ rest) hlt _ _ (hpass.rewrites ho1) ho2
  obtain ⟨found, rest, he, hit⟩ := ((hits_gaps hga).mpr hh).exists_found
  have heads := ho2.inWord_head? v.keepsEdges
  rw [he] at ho2
  obtain ⟨other, rfl, -⟩ := ho2.of_hit hit
  obtain ⟨both, rfl, hboth⟩ := rewrites_before_new hwp hvp hv hb (hfit.congr rfl heads) hb2
  have hone : v.matcher.Hits (lastOr after start) one := hits_of_fitsAt (hv.fitsAt_out ho1 hfits)
  refine ⟨w.new ++ both, ?_, hboth⟩
  have hout : Rewrites v.matcher v.new prev (w.new ++ one) ((' ' :: w.core) ++ ' ' :: both) :=
    rewrites_after_new hwp hvp hw hga hlast hone hb1
  rwa [List.append_cons, ← (hw.tidy (.inl hwp)).padded_new hwp] at hout

end

theorem joins_of_hits (hw : Apart w v) (hv : Apart v w) (h : w.matcher.Hits prev text)
    (ih : ∀ prev t, t.length < text.length → w.Joins v prev t) : w.Joins v prev text := by
  obtain ⟨found, rest, rfl, hit⟩ := h.exists_found
  by_cases hh : w.padded = true ∧ v.padded = true ∧ v.matcher.Hits found.getLast? rest
  · exact joins_of_adjacent hh.1 hh.2.1 hw hv hit hh.2.2 ih
  · have h0 := List.length_pos_iff.mpr (Matcher.found_ne_nil hit)
    refine joins_of_not_adjacent hw hv hit (fun hp hq hx => hh ⟨hp, hq, hx⟩) (ih _ _ ?_)
    rw [List.length_append]
    omega

theorem joins (hw : Apart w v) (hv : Apart v w) (prev : Option Char) (text : Text) :
    w.Joins v prev text := by
  induction hn : text.length using Nat.strongRecOn generalizing prev text with
  | ind n ih =>
    subst hn
    have ih (prev : Option Char) (t : Text) (ht : t.length < text.length) : w.Joins v prev t :=
      ih t.length ht prev t rfl
    by_cases hwt : w.matcher.Hits prev text
    · exact joins_of_hits hw hv hwt ih
    by_cases hvt : v.matcher.Hits prev text
    · exact (joins_of_hits hv hw hvt fun prev t ht => (ih prev t ht).symm).symm
    cases text with
    | nil =>
      intro one other h1 h2
      obtain rfl := Rewrites.done.unique h1
      obtain rfl := Rewrites.done.unique h2
      exact ⟨[], .done, .done⟩
    | cons x rest =>
      refine joins_of_misses hw hv ?_ ?_ (ih (some x) rest (by simp))
      · exact Option.not_isSome_iff_eq_none.mp hwt
      · exact Option.not_isSome_iff_eq_none.mp hvt

end Apart

def Commute (w v : Rewording) : Prop :=
  ∀ text,
    w.correction.apply (v.correction.apply text) = v.correction.apply (w.correction.apply text)

instance : Std.Symm Commute :=
  ⟨fun _ _ h text => (h text).symm⟩

theorem Apart.commute (hw : Apart w v) (hv : Apart v w) : w.Commute v := by
  intro text
  have hr (u : Rewording) (text : Text) :
      Rewrites u.matcher u.new none text (u.correction.apply text) :=
    u.realizes.rewrites_replaceAll u.new text
  obtain ⟨both, hb1, hb2⟩ := hw.joins hv none text _ _ (hr w text) (hr v text)
  rw [hb1.unique (hr v _), hb2.unique (hr w _)]

def AllApart (ws : List Rewording) : Prop :=
  ws.Pairwise fun w v => w.Apart v ∧ v.Apart w

instance (ws : List Rewording) : Decidable (AllApart ws) :=
  inferInstanceAs (Decidable (ws.Pairwise _))

theorem AllApart.commute {ws : List Rewording} (h : AllApart ws) (hw : w ∈ ws) (hv : v ∈ ws) :
    w.Commute v := by
  have hp : ws.Pairwise Commute := h.imp fun ⟨h1, h2⟩ => h1.commute h2
  exact hp.forall_of_forall (fun _ _ _ => rfl) hw hv

end Rewording

end Pattern

namespace Profile

open Pattern

def Commutes (profile : Profile) : Prop :=
  ∀ c ∈ profile.corrections, ∀ d ∈ profile.corrections, ∀ text,
    c.apply (d.apply text) = d.apply (c.apply text)

theorem commutes_of_allApart {profile : Profile} {ws : List Rewording}
    (hp : profile.corrections = ws.map Rewording.correction) (ha : Rewording.AllApart ws) :
    profile.Commutes := by
  intro c hc d hd text
  rw [hp] at hc hd
  obtain ⟨w, hw, rfl⟩ := List.mem_map.mp hc
  obtain ⟨v, hv, rfl⟩ := List.mem_map.mp hd
  exact ha.commute hw hv text

theorem Commutes.correct_perm {profile : Profile} (h : profile.Commutes)
    {corrections : List Correction} (hp : corrections.Perm profile.corrections) (text : Text) :
    { profile with corrections }.correct text = profile.correct text := by
  refine hp.foldl_eq' ?_ text
  intro c hc d hd z
  exact h d (hp.subset hd) c (hp.subset hc) z

end Profile

end SnippetReview
