import SnippetReview.Proofs.Correction.Disclosure
import SnippetReview.Proofs.Pattern.Matches
import SnippetReview.Proofs.Text.Pieces

namespace SnippetReview.Pattern

open Text

namespace Regex

/-! ### Choices -/

def branches : Regex → List (List Regex)
  | .empty => [[]]
  | .seq r q => r.branches.flatMap fun rs => q.branches.map fun qs => rs ++ qs
  | .alt r q => r.branches ++ q.branches
  | r => [[r]]

variable {r : Regex} {rs qs : List Regex} {prev next : Option Char} {w : Text}

theorem matches_joined_cons : (joined (r :: rs)).Matches prev w next ↔
    ∃ u v, w = u ++ v ∧ r.Matches prev u (v.head?.or next) ∧
      (joined rs).Matches (lastOr u prev) v next := by
  cases rs with
  | nil =>
    constructor
    · intro h
      exact ⟨w, [], (List.append_nil w).symm, h, .empty⟩
    · rintro ⟨u, v, rfl, h, he⟩
      cases he
      rwa [List.append_nil]
  | cons q rs =>
    constructor
    · rintro (_ | _ | _ | ⟨first, second⟩)
      exact ⟨_, _, rfl, first, second⟩
    · rintro ⟨u, v, rfl, first, second⟩
      exact .seq first second

theorem matches_joined_append : (joined (rs ++ qs)).Matches prev w next ↔
    ∃ u v, w = u ++ v ∧ (joined rs).Matches prev u (v.head?.or next) ∧
      (joined qs).Matches (lastOr u prev) v next := by
  induction rs generalizing prev w with
  | nil =>
    constructor
    · intro h
      exact ⟨[], w, rfl, .empty, h⟩
    · rintro ⟨u, v, rfl, he, h⟩
      cases he
      exact h
  | cons r rs ih =>
    rw [List.cons_append, matches_joined_cons]
    constructor
    · rintro ⟨u, v, rfl, first, h⟩
      obtain ⟨u', v, rfl, second, third⟩ := ih.mp h
      rw [List.head?_append, Option.or_assoc] at first
      refine ⟨u ++ u', v, (List.append_assoc _ _ _).symm, ?_, ?_⟩
      · exact matches_joined_cons.mpr ⟨u, u', rfl, first, second⟩
      · rwa [lastOr_append]
    · rintro ⟨u, v, rfl, h, third⟩
      obtain ⟨u, u', rfl, first, second⟩ := matches_joined_cons.mp h
      rw [lastOr_append] at third
      refine ⟨u, u' ++ v, List.append_assoc _ _ _, ?_, ih.mpr ⟨u', v, rfl, second, third⟩⟩
      rwa [List.head?_append, Option.or_assoc]

theorem Matches.exists_branch (h : r.Matches prev w next) :
    ∃ b ∈ r.branches, (joined b).Matches prev w next := by
  induction r generalizing prev w next with
  | empty => exact ⟨[], List.mem_singleton.mpr rfl, h⟩
  | seq r q ihr ihq =>
    cases h with
    | seq first second =>
      obtain ⟨rs, hr, h1⟩ := ihr first
      obtain ⟨qs, hq, h2⟩ := ihq second
      refine ⟨rs ++ qs, ?_, matches_joined_append.mpr ⟨_, _, rfl, h1, h2⟩⟩
      exact List.mem_flatMap.mpr ⟨rs, hr, List.mem_map_of_mem hq⟩
  | alt r q ihr ihq =>
    cases h with
    | altLeft h =>
      obtain ⟨b, hb, h⟩ := ihr h
      exact ⟨b, List.mem_append_left _ hb, h⟩
    | altRight h =>
      obtain ⟨b, hb, h⟩ := ihq h
      exact ⟨b, List.mem_append_right _ hb, h⟩
  | _ => exact ⟨_, List.mem_singleton.mpr rfl, h⟩

theorem exists_branch_of_occursIn {text : Text} (h : r.occursIn text = true) :
    ∃ b ∈ r.branches, ∃ before w after, text = before ++ (w ++ after) ∧
      (joined b).Matches (lastOr before none) w after.head? := by
  obtain ⟨n, hn, hm⟩ := exists_of_occursIn h
  rw [matchAt_isSome_iff, Cursor.advance_eq hn] at hm
  obtain ⟨w, after, hw, hm⟩ := hm
  obtain ⟨b, hb, hm⟩ := hm.exists_branch
  refine ⟨b, hb, text.take n, w, after, ?_, hm⟩
  rw [← hw]
  exact (List.take_append_drop n text).symm

/-! ### Letters and boundaries -/

theorem matches_letters {letters : Text} :
    (joined (letters.map fun x => .chars (.single x))).Matches prev w next ↔ w = letters := by
  induction letters generalizing prev w with
  | nil =>
    constructor
    · rintro ⟨⟩
      rfl
    · rintro rfl
      exact .empty
  | cons x letters ih =>
    rw [List.map_cons, matches_joined_cons]
    constructor
    · rintro ⟨u, v, rfl, hx, hv⟩
      cases hx with
      | chars hx =>
        rw [ih.mp hv, (CharClass.contains_single x _).mp hx]
        rfl
    · rintro rfl
      exact ⟨[x], letters, rfl, .chars ((CharClass.contains_single x x).mpr rfl), ih.mpr rfl⟩

theorem matches_boundary {on : Bool} : (joined (Phrase.boundary on)).Matches prev w next ↔
    w = [] ∧ (on = true → inWord prev ≠ inWord next) := by
  cases on with
  | false =>
    constructor
    · rintro ⟨⟩
      exact ⟨rfl, nofun⟩
    · rintro ⟨rfl, -⟩
      exact .empty
  | true =>
    have hb : (Assertion.word .boundary false).HoldsBetween prev next ↔
        inWord prev ≠ inWord next := by
      rw [Assertion.HoldsBetween]
      cases next <;> simp [Assertion.holds, Assertion.edgeHolds, Cursor.next]
    constructor
    · intro h
      cases h with
      | look h => exact ⟨rfl, fun _ => hb.mp h⟩
    · rintro ⟨rfl, h⟩
      exact .look (hb.mpr (h rfl))

theorem matches_edges {o c : Bool}
    (h : (joined (Phrase.boundary o ++ (rs ++ Phrase.boundary c))).Matches prev w next) :
    (joined rs).Matches prev w next ∧ (o = true → inWord prev ≠ inWord (w.head?.or next)) ∧
      (c = true → inWord (lastOr w prev) ≠ inWord next) := by
  obtain ⟨u, s, rfl, hu, h⟩ := matches_joined_append.mp h
  obtain ⟨rfl, ho⟩ := matches_boundary.mp hu
  obtain ⟨s, v, rfl, hs, hv⟩ := matches_joined_append.mp h
  obtain ⟨rfl, hc⟩ := matches_boundary.mp hv
  rw [List.append_nil] at ho ⊢
  exact ⟨hs, ho, hc⟩

end Regex

/-! ### Words with blanks -/

inductive Spacing where
  | tight
  | one
  | any
  deriving DecidableEq

namespace Spacing

def pieces : Spacing → List Regex
  | tight => []
  | one => [.chars .blank]
  | any => [.run .blank 0 true]

def Allows : Spacing → Text → Prop
  | tight, gap => gap = []
  | one, gap => ∃ x, gap = [x] ∧ isBlank x = true
  | any, gap => ∀ x ∈ gap, isBlank x = true

theorem allows_of_matches {s : Spacing} {prev next : Option Char} {w : Text}
    (h : (Regex.joined s.pieces).Matches prev w next) : s.Allows w := by
  cases s with
  | tight =>
    cases h
    exact rfl
  | one =>
    cases h with
    | chars h => exact ⟨_, rfl, h⟩
  | any =>
    cases h with
    | run _ h => exact h

end Spacing

/-- Letters with blanks at one place among them, perhaps with a word boundary at an end. -/
structure Wording where
  opens : Bool := false
  first : Text
  spacing : Spacing := .tight
  mended : Text := []
  second : Text := []
  closes : Bool := false
  first_pos : 0 < first.length := by decide

namespace Wording

open Regex

def pieces (w : Wording) : List Regex :=
  Phrase.boundary w.opens ++ ((w.first.map (fun x => .chars (.single x)) ++ (w.spacing.pieces ++
    w.second.map (fun x => .chars (.single x)))) ++ Phrase.boundary w.closes)

theorem first_ne (w : Wording) : w.first ≠ [] :=
  List.length_pos_iff.mp w.first_pos

def phrase (w : Wording) (gap : Text) : Phrase :=
  ⟨w.opens, w.first ++ (gap ++ w.second), w.closes, List.append_ne_nil_of_left_ne_nil w.first_ne _⟩

theorem fitsAt_of_matches {w : Wording} {prev : Option Char} {s after : Text}
    (h : (joined w.pieces).Matches prev s after.head?) :
    ∃ gap, w.spacing.Allows gap ∧ s = (w.phrase gap).letters ∧
      (w.phrase gap).FitsAt prev ((w.phrase gap).letters ++ after) := by
  obtain ⟨h, ho, hc⟩ := matches_edges h
  obtain ⟨first, t, rfl, hfirst, h⟩ := matches_joined_append.mp h
  obtain ⟨gap, second, rfl, hgap, hsecond⟩ := matches_joined_append.mp h
  obtain rfl := matches_letters.mp hfirst
  obtain rfl := matches_letters.mp hsecond
  have hne : w.first ++ (gap ++ w.second) ≠ [] := (w.phrase gap).letters_ne
  rw [← List.head?_append, List.head?_append_of_ne_nil _ hne] at ho
  rw [lastOr_of_ne_nil hne] at hc
  exact ⟨gap, Spacing.allows_of_matches hgap, rfl, Phrase.fitsAt_append.mpr ⟨ho, hc⟩⟩

def LeftIn (w : Wording) (line : Text) : Prop :=
  ∃ before gap after, line = before ++ ((w.phrase gap).letters ++ after) ∧ w.spacing.Allows gap ∧
    gap ≠ w.mended ∧ (w.phrase gap).FitsAt (lastOr before none) ((w.phrase gap).letters ++ after)

theorem LeftIn.ne_tight {w : Wording} {line : Text} (h : w.LeftIn line) (hm : w.mended = []) :
    w.spacing ≠ .tight := by
  obtain ⟨_, gap, _, -, hgap, hne, -⟩ := h
  intro hs
  rw [hs] at hgap
  exact hne (hgap.trans hm.symm)

theorem LeftIn.exists_blank {w : Wording} {line : Text} (h : w.LeftIn line)
    (hs : w.spacing = .one) (hm : w.mended = [' ']) :
    ∃ before x after, line = before ++ (w.first ++ x :: (w.second ++ after)) ∧ isBlank x = true ∧
      x ≠ ' ' ∧ (w.opens = true → inWord (lastOr before none) ≠ inWord w.first.head?) := by
  obtain ⟨before, gap, after, rfl, hgap, hne, hfit⟩ := h
  rw [hs] at hgap
  obtain ⟨x, rfl, hx⟩ := hgap
  refine ⟨before, x, after, by simp [phrase], hx, ?_, fun ho => ?_⟩
  · rintro rfl
    exact hne hm.symm
  · have hopens := (Phrase.fitsAt_append.mp hfit).1 ho
    rwa [phrase, List.head?_append_of_ne_nil _ w.first_ne] at hopens

theorem LeftIn.exists_blanks {w : Wording} {line : Text} (h : w.LeftIn line)
    (hs : w.spacing = .any) (hm : w.mended = []) :
    ∃ before gap after, line = before ++ (w.first ++ (gap ++ (w.second ++ after))) ∧ gap ≠ [] ∧
      ∀ x ∈ gap, isBlank x = true := by
  obtain ⟨before, gap, after, rfl, hgap, hne, -⟩ := h
  rw [hs] at hgap
  exact ⟨before, gap, after, by simp [phrase], hm ▸ hne, hgap⟩

end Wording

/-! ### Words in corrected texts -/

theorem inWord_of_blank {c : Option Char} (h : ∀ x ∈ c, isBlank x = true) :
    inWord c = inWord none := by
  cases c with
  | none => rfl
  | some x =>
    rw [not_inWord_of_isBlank (h x rfl)]
    decide

theorem Phrase.FitsAt.somewhere_of_line {p : Phrase} {line text before after : Text}
    (hl : line ∈ lines text) (ht : trim line = before ++ (p.letters ++ after))
    (h : p.FitsAt (lastOr before none) (p.letters ++ after)) : Somewhere p.FitsAt none text := by
  obtain ⟨start, rest, rfl, hs, hr⟩ := exists_append_of_mem_lines hl
  rw [ht, List.append_assoc, ← List.append_assoc start, List.append_assoc p.letters]
  refine somewhere_append.mpr (.inr (.here (h.congr ?_ ?_)))
  · rw [lastOr_append]
    apply inWord_lastOr
    rw [lastOr, Option.or_none]
    exact inWord_of_blank hs
  · cases after with
    | nil => exact inWord_of_blank hr
    | cons => rfl

end SnippetReview.Pattern

namespace SnippetReview

open Pattern

def LineRule.Spells (rule : LineRule) (ws : List Wording) : Prop :=
  rule.pattern.branches = ws.map Wording.pieces

instance (rule : LineRule) (ws : List Wording) : Decidable (rule.Spells ws) :=
  inferInstanceAs (Decidable (_ = _))

theorem LineRule.Spells.leftIn {rule : LineRule} {ts : List Wording} (hr : rule.Spells ts)
    {ws : List Rewording} (hw : ∀ t ∈ ts, ∃ w ∈ ws, w.phrase = t.phrase t.mended) {text line : Text}
    (hn : ∀ w ∈ ws, w.regex.occursIn text = false) (hl : line ∈ Text.lines text)
    (hf : rule.flags (Text.trim line) = true) : ∃ t ∈ ts, t.LeftIn (Text.trim line) := by
  have ho : rule.pattern.occursIn (Text.trim line) = true := by
    rw [LineRule.flags, Bool.and_eq_true] at hf
    exact hf.1
  obtain ⟨b, hb, before, s, after, ht, hm⟩ := Regex.exists_branch_of_occursIn ho
  rw [hr] at hb
  obtain ⟨t, htm, rfl⟩ := List.mem_map.mp hb
  obtain ⟨gap, hgap, rfl, hfit⟩ := Wording.fitsAt_of_matches hm
  refine ⟨t, htm, before, gap, after, ht, hgap, ?_, hfit⟩
  rintro rfl
  obtain ⟨w, hwm, hp⟩ := hw t htm
  rw [← hp] at hfit ht
  have := (w.occursIn_iff text).mpr (hfit.somewhere_of_line hl ht)
  rw [hn w hwm] at this
  cases this

end SnippetReview
