import Mathlib.Data.List.Basic
import SnippetReview.Proofs.Pattern.Matches

namespace SnippetReview.Pattern

def written (new : Text) (marks : List (Option Char)) : Text :=
  marks.flatMap fun mark => mark.elim new fun x => [x]

theorem written_append (new : Text) (left right : List (Option Char)) :
    written new (left ++ right) = written new left ++ written new right :=
  List.flatMap_append

theorem written_some (new : Text) (x : Char) (marks : List (Option Char)) :
    written new (some x :: marks) = x :: written new marks := rfl

theorem written_none (new : Text) (marks : List (Option Char)) :
    written new (none :: marks) = new ++ written new marks := rfl

theorem written_map_some (new kept : Text) : written new (kept.map some) = kept := by
  induction kept with
  | nil => rfl
  | cons x kept ih => rw [List.map_cons, written_some, ih]

/-- A place in the text written where new text meets its neighbour. -/
def IsSeam (new : Text) (marks : List (Option Char)) (n : Nat) : Prop :=
  ∃ left a b right, marks = left ++ a :: b :: right ∧ (a = none ∨ b = none) ∧
    n = (written new (left ++ [a])).length

namespace Regex

def Misses (r : Regex) (afterMatch : Bool) (c : Cursor) : Prop :=
  ∀ d, r.matchAt c = some d → afterMatch = true ∧ d.pos = c.pos

inductive Marks (r : Regex) : Bool → Cursor → List (Option Char) → Prop
  | stop {afterMatch : Bool} {c : Cursor} (miss : r.Misses afterMatch c) (h : c.rest = []) :
      Marks r afterMatch c []
  | keep {afterMatch : Bool} {c : Cursor} {x : Char} {rest : Text} {marks : List (Option Char)}
      (miss : r.Misses afterMatch c) (hc : c.rest = x :: rest)
      (h : Marks r false (c.step x rest) marks) : Marks r afterMatch c (some x :: marks)
  | write {afterMatch : Bool} {c d : Cursor} {marks : List (Option Char)}
      (hit : r.matchAt c = some d) (fresh : afterMatch = true → d.pos ≠ c.pos)
      (h : Marks r true d marks) : Marks r afterMatch c (none :: marks)

section

variable {r : Regex} {c : Cursor}

theorem misses_of_eq_none {afterMatch : Bool} (h : r.matchAt c = none) : r.Misses afterMatch c := by
  intro d hd
  rw [h] at hd
  cases hd

theorem misses_after (h : r.matchAt c = some c) : r.Misses true c := by
  intro d hd
  rw [h] at hd
  cases hd
  exact ⟨rfl, rfl⟩

theorem advance_of_matchAt {d : Cursor} (h : r.matchAt c = some d) :
    ∃ n ≤ c.rest.length, d = c.advance n ∧ d.pos = c.pos + n := by
  obtain ⟨w, rest, hc, -, rfl⟩ := exists_of_matchAt h
  exact ⟨w.length, by simp [hc], rfl, by rw [Cursor.advance_append hc]⟩

-- The text before an empty match, which counts for nothing right after another match.
theorem written_of_empty {marks : List (Option Char)} (hm : r.matchAt c = some c)
    (h : r.Marks true c marks) (afterMatch : Bool) :
    ∃ all, r.Marks afterMatch c all ∧ ∀ new out : Text,
      (if c.pos = c.pos && afterMatch then out else new.reverseAux out).reverse ++
        written new marks = out.reverse ++ written new all := by
  cases afterMatch with
  | true => exact ⟨marks, h, fun new out => by simp⟩
  | false =>
    refine ⟨none :: marks, .write hm (by simp) h, fun new out => ?_⟩
    simp [List.reverseAux_eq, written_none]

theorem exists_marks_replaceFrom (skip : Nat) (afterMatch known : Bool) (c : Cursor) {rest : Text}
    (hc : c.rest = rest) (hs : skip ≤ rest.length) (ha : skip = 0 ∨ afterMatch = true)
    (hk : known = true → skip = 0 → r.matchAt c = none) :
    ∃ marks, r.Marks afterMatch (c.advance skip) marks ∧ ∀ new out,
      r.replaceFrom r.leadingRun new ⟨skip, afterMatch, known⟩ c out rest =
        out.reverse ++ written new marks := by
  induction rest generalizing skip afterMatch known c with
  | nil =>
    obtain rfl : skip = 0 := by simpa using hs
    cases hm : r.matchAt c with
    | none =>
      refine ⟨[], .stop (misses_of_eq_none hm) hc, fun new out => ?_⟩
      rw [replaceFrom_nil (by simp [hm])]
      exact (List.append_nil _).symm
    | some d =>
      have hknown : known = false := by
        cases known with
        | false => rfl
        | true => rw [hk rfl rfl] at hm; cases hm
      obtain ⟨n, hn, rfl, -⟩ := advance_of_matchAt hm
      obtain rfl : n = 0 := by simpa [hc] using hn
      obtain ⟨marks, hmarks, hw⟩ := written_of_empty hm (.stop (misses_after hm) hc) afterMatch
      refine ⟨marks, hmarks, fun new out => ?_⟩
      rw [← hw, hknown]
      simp [replaceFrom, hm, Cursor.advance_zero, written]
  | cons x rest ih =>
    cases skip with
    | succ skip =>
      obtain rfl : afterMatch = true := ha.resolve_left (Nat.succ_ne_zero skip)
      obtain ⟨marks, hmarks, hw⟩ := ih skip true false (c.step x rest) rfl
        (by simpa using hs) (.inr rfl) (by simp)
      exact ⟨marks, by rwa [Cursor.advance_step hc], fun new out => hw new out⟩
    | zero =>
      cases hm : r.matchAt c with
      | none =>
        obtain ⟨marks, hmarks, hw⟩ := ih 0 false (leads r.leadingRun x) (c.step x rest) rfl
          (Nat.zero_le _) (.inl rfl)
          (fun hx _ => matchAt_step_eq_none hc hx hm)
        refine ⟨some x :: marks, .keep (misses_of_eq_none hm) hc hmarks, fun new out => ?_⟩
        rw [replaceFrom_miss (by simp [hm]), hw, written_some]
        simp
      | some d =>
        have hknown : known = false := by
          cases known with
          | false => rfl
          | true => rw [hk rfl rfl] at hm; cases hm
        obtain ⟨n, hn, rfl, hpos⟩ := advance_of_matchAt hm
        cases n with
        | zero =>
          -- The empty match is replaced or not, and the character after it stays.
          obtain ⟨marks, hmarks, hw⟩ := ih 0 false false (c.step x rest) rfl
            (Nat.zero_le _) (.inl rfl) (by simp)
          obtain ⟨all, hall, ha⟩ :=
            written_of_empty hm (.keep (misses_after hm) hc hmarks) afterMatch
          refine ⟨all, hall, fun new out => ?_⟩
          rw [← ha, written_some, hknown]
          simp [replaceFrom, hm, Cursor.advance_zero, hw]
        | succ n =>
          obtain ⟨marks, hmarks, hw⟩ := ih n true false (c.step x rest) rfl
            (by simpa [hc] using hn) (.inr rfl) (by simp)
          rw [← Cursor.advance_step hc] at hmarks
          have hmoved : (c.advance (n + 1)).pos ≠ c.pos := by omega
          refine ⟨none :: marks, .write hm (fun _ => hmoved) hmarks, fun new out => ?_⟩
          rw [hknown, replaceFrom_hit hm hn, hw, written_none, List.reverseAux_eq]
          simp

theorem exists_marks (r : Regex) (text : Text) :
    ∃ marks, r.Marks false (Cursor.start text) marks ∧
      ∀ new, r.replaceAll new text = written new marks := by
  obtain ⟨marks, h, hw⟩ := r.exists_marks_replaceFrom 0 false false (Cursor.start text) rfl
    (Nat.zero_le _) (.inl rfl) (by simp)
  exact ⟨marks, h, fun new => hw new []⟩

-- A text at the head of what was written stands in the text read, with the same character after it,
-- or it comes up to a place that is written.
theorem Marks.kept_or_written {afterMatch : Bool} {marks : List (Option Char)}
    (h : r.Marks afterMatch c marks) {new w post : Text} (ho : written new marks = w ++ post) :
    (∃ rest, c.rest = w ++ rest ∧ rest.head? = post.head?) ∨
      ∃ (kept : Text) (right : List (Option Char)), marks = kept.map some ++ none :: right ∧
        kept <+: w ∧ kept <+: c.rest := by
  induction h generalizing w with
  | @stop _ c _ hc =>
    obtain ⟨rfl, rfl⟩ := List.append_eq_nil_iff.mp ho.symm
    exact .inl ⟨[], hc, rfl⟩
  | @keep _ c x rest marks _ hc _ ih =>
    rw [written_some] at ho
    cases w with
    | nil => exact .inl ⟨c.rest, rfl, by rw [hc, ← (show _ = post from ho)]; rfl⟩
    | cons y w =>
      obtain ⟨rfl, ht⟩ : x = y ∧ written new marks = w ++ post := List.cons.inj ho
      rcases ih ht with ⟨rest', hr, hh⟩ | ⟨kept, right, rfl, hw, hk⟩
      · exact .inl ⟨rest', by rw [hc]; exact congrArg (x :: ·) hr, hh⟩
      · rw [hc]
        exact .inr ⟨x :: kept, right, rfl, List.cons_prefix_cons.mpr ⟨rfl, hw⟩,
          List.cons_prefix_cons.mpr ⟨rfl, hk⟩⟩
  | @write _ _ _ marks => exact .inr ⟨[], marks, rfl, List.nil_prefix, List.nil_prefix⟩

theorem isSeam_of_kept {new kept : Text} (hk : kept ≠ []) (left right : List (Option Char)) :
    IsSeam new (left ++ (kept.map some ++ none :: right))
      ((written new left).length + kept.length) := by
  obtain ⟨start, x, rfl⟩ := List.eq_nil_or_concat kept |>.resolve_left hk
  refine ⟨left ++ start.map some, some x, none, right, by simp, .inr rfl, ?_⟩
  rw [List.append_assoc, written_append, written_append, written_map_some, List.concat_eq_append]
  simp [written]

-- A match that begins in a new text reaches one of its ends, if the expression does not match it
-- alone.
theorem exists_seam_of_written {new : Text} (hnew : r.occursIn new = false)
    {left right : List (Option Char)} {before inner w post : Text} (hn : new = before ++ inner)
    (ho : inner ++ written new right = w ++ post)
    (hm : r.Matches (lastOr before (lastOr (written new left) none)) w post.head?) :
    ∃ n, IsSeam new (left ++ none :: right) n ∧ (written new left).length + before.length ≤ n ∧
      n ≤ (written new left).length + before.length + w.length := by
  have hlen : new.length = before.length + inner.length := by rw [hn, List.length_append]
  by_cases hend : right ≠ [] ∧ inner.length ≤ w.length
  · obtain ⟨b, right, rfl⟩ := List.exists_cons_of_ne_nil hend.1
    have hseam :
        (written new (left ++ [none])).length = (written new left).length + new.length := by
      simp [written]
    exact ⟨_, ⟨left, none, b, right, rfl, .inl rfl, rfl⟩, by omega, by omega⟩
  -- The match ends before the new text does, or with it at the end of all.
  obtain ⟨tail, ht, hh⟩ : ∃ tail, inner = w ++ tail ∧ post.head? = tail.head? := by
    by_cases hr : right = []
    · subst hr
      exact ⟨post, by simpa [written] using ho, rfl⟩
    · have hlt : w.length < inner.length := by
        by_contra hle
        exact hend ⟨hr, by omega⟩
      rcases List.append_eq_append_iff.mp ho with ⟨tail, hw, -⟩ | ⟨tail, hi, hp⟩
      · rw [hw, List.length_append] at hlt
        omega
      · refine ⟨tail, hi, ?_⟩
        have hne : tail ≠ [] := by
          rintro rfl
          simp [hi] at hlt
        rw [hp, List.head?_append_of_ne_nil _ hne]
  by_cases hstart : left ≠ [] ∧ before = []
  · obtain ⟨start, a, rfl⟩ := List.eq_nil_or_concat left |>.resolve_left hstart.1
    rw [List.concat_eq_append]
    refine ⟨_, ⟨start, a, none, right, by simp, .inr rfl, rfl⟩, ?_, by omega⟩
    simp [hstart.2]
  · have hprev : lastOr before (lastOr (written new left) none) = lastOr before none := by
      by_cases hb : before = []
      · obtain rfl : left = [] := by
          by_contra hl
          exact hstart ⟨hl, hb⟩
        rfl
      · rw [lastOr_of_ne_nil hb, lastOr_of_ne_nil hb]
    rw [hprev, hh] at hm
    have hf := occursIn_of_matchesAt before ⟨w, tail, rfl, hm⟩
    rw [← ht, ← hn, hnew] at hf
    cases hf

theorem Marks.exists_seam {afterMatch : Bool} {marks : List (Option Char)}
    (h : r.Marks afterMatch c marks) {new : Text} (hnew : r.occursIn new = false)
    (left : List (Option Char)) {before w post : Text}
    (hleft : left.getLast? = some none ∧ before ≠ [] ∨ left.getLast? ≠ some none ∧
      afterMatch = false ∧ lastOr (written new left) none = c.prev)
    (ho : written new marks = before ++ (w ++ post))
    (hm : r.Matches (lastOr before (lastOr (written new left) none)) w post.head?) :
    ∃ n, IsSeam new (left ++ marks) n ∧ (written new left).length + before.length ≤ n ∧
      n ≤ (written new left).length + before.length + w.length := by
  induction h generalizing left before with
  | @stop afterMatch c miss hc =>
    obtain ⟨rfl, hp⟩ := List.append_eq_nil_iff.mp ho.symm
    obtain ⟨rfl, rfl⟩ := List.append_eq_nil_iff.mp hp
    obtain ⟨-, rfl, hprev⟩ := hleft.resolve_left (by simp)
    have hs : (r.matchAt c).isSome := by
      refine (r.matchAt_isSome_iff c).mpr ⟨[], [], hc, ?_⟩
      rwa [← hprev]
    obtain ⟨d, hd⟩ := Option.isSome_iff_exists.mp hs
    cases (miss d hd).1
  | @keep afterMatch c x rest marks miss hc h ih =>
    cases before with
    | nil =>
      obtain ⟨hlast, rfl, hprev⟩ := hleft.resolve_left (by simp)
      rw [List.nil_append] at ho
      rcases (Marks.keep miss hc h).kept_or_written ho with
        ⟨rest', hr, hh⟩ | ⟨kept, right, he, hw, -⟩
      · -- The match stands in the text read, where the character stays because there is none.
        have hs : (r.matchAt c).isSome := by
          refine (r.matchAt_isSome_iff c).mpr ⟨w, rest', hr, ?_⟩
          rw [hh, ← hprev]
          exact hm
        obtain ⟨d, hd⟩ := Option.isSome_iff_exists.mp hs
        cases (miss d hd).1
      · have hk : kept ≠ [] := by
          rintro rfl
          cases he
        rw [he]
        exact ⟨_, isSeam_of_kept hk left right, by simp, by simpa using hw.length_le⟩
    | cons y before =>
      obtain ⟨rfl, ht⟩ : x = y ∧ written new marks = before ++ (w ++ post) := List.cons.inj ho
      have hp : lastOr (written new (left ++ [some x])) none = some x := by
        simp [written, lastOr]
      rw [lastOr_cons, ← hp] at hm
      obtain ⟨n, hn, hlo, hhi⟩ := ih _ (.inr ⟨by simp, rfl, hp⟩) ht hm
      have hlen : (written new (left ++ [some x])).length = (written new left).length + 1 := by
        simp [written]
      rw [List.append_assoc] at hn
      exact ⟨n, hn, by simp only [List.length_cons]; omega, by simp only [List.length_cons]; omega⟩
  | @write afterMatch c d marks hit fresh _ ih =>
    rw [written_none] at ho
    rcases List.append_eq_append_iff.mp ho with ⟨before', hb, ho'⟩ | ⟨inner, hi, ho'⟩
    · by_cases hne : before' = []
      · subst hne
        have hn : new = before ++ [] := by simpa using hb.symm
        exact exists_seam_of_written hnew hn ho' hm
      · have hp : lastOr before (lastOr (written new left) none) =
            lastOr before' (lastOr (written new (left ++ [none])) none) := by
          rw [hb, lastOr_append, lastOr_of_ne_nil hne, lastOr_of_ne_nil hne]
        rw [hp] at hm
        obtain ⟨n, hn, hlo, hhi⟩ := ih _ (.inl ⟨by simp, hne⟩) ho' hm
        have hlen : (written new (left ++ [none])).length + before'.length =
            (written new left).length + before.length := by
          simp [written, hb, Nat.add_assoc]
        rw [List.append_assoc] at hn
        exact ⟨n, hn, by omega, by omega⟩
    · exact exists_seam_of_written hnew hi ho'.symm hm

def looks : Regex → Bool
  | look _ => true
  | seq r q => r.looks || q.looks
  | alt r q => r.looks || q.looks
  | star r _ => r.looks
  | copies r _ => r.looks
  | upTo r _ _ => r.looks
  | _ => false

theorem Matches.of_not_looks {prev next : Option Char} {w : Text} (h : r.Matches prev w next)
    (hr : r.looks = false) (prev' next' : Option Char) : r.Matches prev' w next' := by
  induction h generalizing prev' next' with
  | empty => exact .empty
  | chars h => exact .chars h
  | look => cases hr
  | seq _ _ ih₁ ih₂ =>
    obtain ⟨h₁, h₂⟩ := Bool.or_eq_false_iff.mp hr
    exact .seq (ih₁ h₁ _ _) (ih₂ h₂ _ _)
  | altLeft _ ih => exact .altLeft (ih (Bool.or_eq_false_iff.mp hr).1 _ _)
  | altRight _ ih => exact .altRight (ih (Bool.or_eq_false_iff.mp hr).2 _ _)
  | run enough h => exact .run enough h
  | starStop => exact .starStop
  | starMore _ _ ih₁ ih₂ => exact .starMore (ih₁ hr _ _) (ih₂ hr _ _)
  | copiesStop => exact .copiesStop
  | copiesMore _ _ ih₁ ih₂ => exact .copiesMore (ih₁ hr _ _) (ih₂ hr _ _)
  | upToStop => exact .upToStop
  | upToMore _ _ ih₁ ih₂ => exact .upToMore (ih₁ hr _ _) (ih₂ hr _ _)

theorem not_matches_of_not_occursIn (hr : r.looks = false) {new before w after : Text}
    (hnew : r.occursIn new = false) (hn : new = before ++ (w ++ after)) (prev next : Option Char) :
    ¬ r.Matches prev w next := by
  intro h
  have hf := occursIn_of_matchesAt before ⟨w, after, rfl, h.of_not_looks hr _ _⟩
  rw [← hn, hnew] at hf
  cases hf

theorem Misses.not_matches (hr : r.looks = false) {new : Text} (hnew : r.occursIn new = false)
    {afterMatch : Bool} (h : r.Misses afterMatch c) {w : Text} (hw : w <+: c.rest)
    (prev next : Option Char) : ¬ r.Matches prev w next := by
  intro hm
  obtain ⟨rest, hc⟩ := hw
  obtain ⟨d, hd⟩ := Option.isSome_iff_exists.mp
    ((r.matchAt_isSome_iff c).mpr ⟨w, rest, hc.symm, hm.of_not_looks hr _ _⟩)
  obtain ⟨u, _, hu, hmu, rfl⟩ := exists_of_matchAt hd
  have hpos := (h _ hd).2
  rw [Cursor.advance_append hu] at hpos
  obtain rfl : u = [] := List.length_eq_zero_iff.mp (by simpa using hpos)
  have hn : new = [] ++ ([] ++ new) := rfl
  exact not_matches_of_not_occursIn hr hnew hn _ _ hmu

theorem Marks.exists_seam_within (hr : r.looks = false) {afterMatch : Bool}
    {marks : List (Option Char)} (h : r.Marks afterMatch c marks) {new : Text}
    (hnew : r.occursIn new = false) (left : List (Option Char)) {before w post : Text}
    (ho : written new marks = before ++ (w ++ post)) {prev next : Option Char}
    (hm : r.Matches prev w next) :
    ∃ n, IsSeam new (left ++ marks) n ∧ (written new left).length + before.length < n ∧
      n < (written new left).length + before.length + w.length := by
  induction h generalizing left before with
  | @stop afterMatch c miss hc =>
    obtain ⟨-, hp⟩ := List.append_eq_nil_iff.mp ho.symm
    obtain ⟨rfl, -⟩ := List.append_eq_nil_iff.mp hp
    exact absurd hm (miss.not_matches hr hnew List.nil_prefix _ _)
  | @keep afterMatch c x rest marks miss hc h ih =>
    cases before with
    | nil =>
      rw [List.nil_append] at ho
      rcases (Marks.keep miss hc h).kept_or_written ho with
        ⟨rest', hw, -⟩ | ⟨kept, right, he, hw, hk⟩
      · exact absurd hm (miss.not_matches hr hnew ⟨rest', hw.symm⟩ _ _)
      · have hne : kept ≠ [] := by
          rintro rfl
          cases he
        have hlt : kept.length < w.length := by
          refine Nat.lt_of_le_of_ne hw.length_le fun hl => ?_
          rw [hw.eq_of_length hl] at hk
          exact miss.not_matches hr hnew hk _ _ hm
        have hpos := List.length_pos_iff.mpr hne
        rw [he]
        exact ⟨_, isSeam_of_kept hne left right, by simpa using hpos, by simpa using hlt⟩
    | cons y before =>
      obtain ⟨rfl, ht⟩ : x = y ∧ written new marks = before ++ (w ++ post) := List.cons.inj ho
      obtain ⟨n, hn, hlo, hhi⟩ := ih (left ++ [some x]) ht
      have hlen : (written new (left ++ [some x])).length = (written new left).length + 1 := by
        simp [written]
      rw [List.append_assoc] at hn
      exact ⟨n, hn, by simp only [List.length_cons]; omega, by simp only [List.length_cons]; omega⟩
  | @write afterMatch c d marks hit fresh _ ih =>
    have hlen : (written new (left ++ [none])).length = (written new left).length + new.length := by
      simp [written]
    rw [written_none] at ho
    rcases List.append_eq_append_iff.mp ho with ⟨before', rfl, ho'⟩ | ⟨inner, hi, ho'⟩
    · obtain ⟨n, hn, hlo, hhi⟩ := ih (left ++ [none]) ho'
      rw [List.append_assoc] at hn
      refine ⟨n, hn, ?_, ?_⟩ <;>
        · simp only [List.length_append]
          omega
    · have alone (tail : Text) (ht : inner = w ++ tail) : False :=
        not_matches_of_not_occursIn hr hnew (by rw [hi, ht]) _ _ hm
      rcases List.append_eq_append_iff.mp ho' with ⟨tail, ht, -⟩ | ⟨beyond, rfl, hb⟩
      · exact (alone tail ht).elim
      have hl : new.length = before.length + inner.length := by rw [hi, List.length_append]
      by_cases hne : inner = []
      · subst hne
        have hb' : written new marks = [] ++ (beyond ++ post) := hb
        obtain ⟨n, hn, hlo, hhi⟩ := ih (left ++ [none]) hb'
        rw [List.append_assoc] at hn
        simp only [hlen, List.length_nil, Nat.add_zero, List.nil_append] at hl hlo hhi ⊢
        exact ⟨n, hn, by omega, by omega⟩
      · have hbeyond : beyond ≠ [] := by
          rintro rfl
          exact alone [] (by simp)
        obtain ⟨b, right, rfl⟩ : ∃ b right, marks = b :: right := by
          refine List.exists_cons_of_ne_nil ?_
          rintro rfl
          exact hbeyond (List.append_eq_nil_iff.mp hb.symm).1
        have h₁ := List.length_pos_iff.mpr hne
        have h₂ := List.length_pos_iff.mpr hbeyond
        refine ⟨_, ⟨left, none, b, right, rfl, .inl rfl, rfl⟩, by omega, ?_⟩
        rw [List.length_append]
        omega

end

end Regex

end SnippetReview.Pattern
