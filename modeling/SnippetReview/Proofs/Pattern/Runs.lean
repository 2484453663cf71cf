import SnippetReview.Pattern.Search

namespace SnippetReview.Pattern

def lastOr (before : Text) (prev : Option Char) : Option Char :=
  before.getLast?.or prev

theorem lastOr_nil (prev : Option Char) : lastOr [] prev = prev := rfl

theorem lastOr_cons (x : Char) (before : Text) (prev : Option Char) :
    lastOr (x :: before) prev = lastOr before (some x) := by
  cases h : before.getLast? <;> simp [lastOr, List.getLast?_cons, h]

theorem lastOr_append (u v : Text) (prev : Option Char) :
    lastOr (u ++ v) prev = lastOr v (lastOr u prev) := by
  simp [lastOr, List.getLast?_append, Option.or_assoc]

theorem lastOr_of_ne_nil {before : Text} (h : before ≠ []) (prev : Option Char) :
    lastOr before prev = before.getLast? := by
  cases hl : before.getLast? with
  | none => exact absurd (List.getLast?_eq_none_iff.mp hl) h
  | some x => simp [lastOr, hl]

def Cursor.advance : Nat → Cursor → Cursor
  | 0, c => c
  | n + 1, c =>
    match c.rest with
    | [] => c
    | x :: rest => advance n (c.step x rest)

namespace Cursor

theorem advance_zero (c : Cursor) : c.advance 0 = c := rfl

theorem advance_step {c : Cursor} {x : Char} {rest : Text} (h : c.rest = x :: rest) (n : Nat) :
    c.advance (n + 1) = (c.step x rest).advance n := by
  simp [advance, h]

theorem advance_eq {c : Cursor} {n : Nat} (h : n ≤ c.rest.length) :
    c.advance n = ⟨c.pos + n, lastOr (c.rest.take n) c.prev, c.rest.drop n⟩ := by
  induction n generalizing c with
  | zero => simp [advance, lastOr_nil]
  | succ n ih =>
    cases hr : c.rest with
    | nil => simp [hr] at h
    | cons x rest =>
      rw [advance_step hr, ih (by simpa [step, hr] using h)]
      simp only [step, List.take_succ_cons, List.drop_succ_cons, lastOr_cons, Cursor.mk.injEq,
        and_true]
      omega

theorem advance_rest (n : Nat) (c : Cursor) : (c.advance n).rest = c.rest.drop n := by
  induction n generalizing c with
  | zero => rfl
  | succ n ih =>
    cases hr : c.rest with
    | nil => simp [advance, hr]
    | cons x rest => rw [advance_step hr, ih]; rfl

theorem advance_add (n m : Nat) (c : Cursor) : c.advance (n + m) = (c.advance n).advance m := by
  induction n generalizing c with
  | zero => simp [advance]
  | succ n ih =>
    cases hr : c.rest with
    | nil => cases m <;> simp [advance, hr]
    | cons x rest => rw [Nat.add_right_comm, advance_step hr, advance_step hr, ih]

end Cursor

namespace Regex

theorem orElse_isSome (first : Option Cursor) (second : Unit → Option Cursor) :
    (orElse first second).isSome ↔ first.isSome ∨ (second ()).isSome := by
  cases first <;> simp [orElse]

def RunTo (s : CharClass) (least : Nat) (text : Text) (n : Nat) : Prop :=
  least ≤ n ∧ n ≤ text.length ∧ ∀ x ∈ text.take n, s.contains x = true

theorem runTo_zero {s : CharClass} {least : Nat} {text : Text} :
    RunTo s least text 0 ↔ least = 0 := by
  simp [RunTo]

theorem not_runTo_nil {s : CharClass} {least n : Nat} : ¬ RunTo s least [] (n + 1) := by
  simp [RunTo]

theorem runTo_cons {s : CharClass} {least : Nat} {x : Char} {rest : Text} {n : Nat} :
    RunTo s least (x :: rest) (n + 1) ↔ s.contains x = true ∧ RunTo s (least - 1) rest n := by
  simp only [RunTo, List.length_cons, List.take_succ_cons, List.mem_cons, forall_eq_or_imp]
  constructor
  · rintro ⟨h, hn, hx, hr⟩
    exact ⟨hx, by omega, by omega, hr⟩
  · rintro ⟨hx, h, hn, hr⟩
    exact ⟨by omega, by omega, hx, hr⟩

theorem mem_keepEnd {least : Nat} {c d : Cursor} {found : List Cursor} :
    d ∈ (if least == 0 then c :: found else found) ↔ d ∈ found ∨ least = 0 ∧ d = c := by
  by_cases h : least = 0 <;> simp [h, or_comm]

theorem mem_runEnds {s : CharClass} {least : Nat} {c d : Cursor} {found : List Cursor} {rest : Text}
    (hc : c.rest = rest) :
    d ∈ runEnds s least c found rest ↔ d ∈ found ∨ ∃ n, RunTo s least rest n ∧ d = c.advance n := by
  induction rest generalizing least c found with
  | nil =>
    rw [runEnds, mem_keepEnd, ← Nat.or_exists_add_one]
    simp [runTo_zero, not_runTo_nil, Cursor.advance_zero]
  | cons x rest ih =>
    rw [runEnds, ← Nat.or_exists_add_one]
    simp only [runTo_zero, runTo_cons, Cursor.advance_step hc, Cursor.advance_zero]
    by_cases hx : s.contains x = true
    · simp only [hx, if_true, true_and]
      rw [ih (c := c.step x rest) rfl, mem_keepEnd, or_assoc]
    · simp only [hx, Bool.false_eq_true, if_false, false_and, exists_false, or_false]
      exact mem_keepEnd

theorem shortestRun_isSome {s : CharClass} {k : Continuation} {least : Nat} {c : Cursor}
    {rest : Text} (hc : c.rest = rest) :
    (shortestRun s k least c rest).isSome ↔
      ∃ n, RunTo s least rest n ∧ (k (c.advance n)).isSome := by
  induction rest generalizing least c with
  | nil =>
    rw [shortestRun, orElse_isSome, ← Nat.or_exists_add_one]
    by_cases h : least = 0 <;> simp [h, runTo_zero, not_runTo_nil, Cursor.advance_zero]
  | cons x rest ih =>
    rw [shortestRun, orElse_isSome, ← Nat.or_exists_add_one]
    simp only [runTo_zero, runTo_cons, Cursor.advance_step hc, Cursor.advance_zero]
    apply or_congr
    · by_cases h : least = 0 <;> simp [h]
    · by_cases hx : s.contains x = true
      · simp only [hx, if_true, true_and]
        exact ih (c := c.step x rest) rfl
      · simp [hx]

theorem matchThen_run_isSome {s : CharClass} {least : Nat} {greedy : Bool} {k : Continuation}
    {c : Cursor} :
    ((run s least greedy).matchThen k c).isSome ↔
      ∃ n, RunTo s least c.rest n ∧ (k (c.advance n)).isSome := by
  cases greedy with
  | true =>
    simp only [matchThen, if_true, List.findSome?_isSome_iff, mem_runEnds rfl]
    constructor
    · rintro ⟨d, h | ⟨n, hn, rfl⟩, hk⟩
      · simp at h
      · exact ⟨n, hn, hk⟩
    · rintro ⟨n, hn, hk⟩
      exact ⟨_, .inr ⟨n, hn, rfl⟩, hk⟩
  | false => exact shortestRun_isSome rfl

theorem runEnds_zero {s : CharClass} (c : Cursor) (found : List Cursor) {rest : Text}
    (hc : c.rest = rest) :
    ∃ shorter, runEnds s 0 c found rest =
        c.advance (rest.takeWhile s.contains).length :: shorter ++ found ∧
      ∀ d ∈ shorter, ∃ n < (rest.takeWhile s.contains).length, d = c.advance n := by
  induction rest generalizing c found with
  | nil => exact ⟨[], rfl, by simp⟩
  | cons x rest ih =>
    by_cases hx : s.contains x = true
    · obtain ⟨shorter, he, hd⟩ := ih (c.step x rest) (c :: found) rfl
      refine ⟨shorter ++ [c], ?_, ?_⟩
      · simpa [runEnds, hx, Cursor.advance_step hc] using he
      · simp only [List.mem_append, List.mem_singleton, List.takeWhile_cons_of_pos hx,
          List.length_cons]
        rintro d (h | rfl)
        · obtain ⟨n, hn, rfl⟩ := hd d h
          exact ⟨n + 1, by omega, (Cursor.advance_step hc n).symm⟩
        · exact ⟨0, by omega, rfl⟩
    · exact ⟨[], by simp [runEnds, hx, Cursor.advance_zero], by simp⟩

theorem matchThen_run_longest {s : CharClass} {k : Continuation} {c : Cursor}
    (hk : ∀ n < (c.rest.takeWhile s.contains).length, k (c.advance n) = none ∨
      (k (c.advance (c.rest.takeWhile s.contains).length)).isSome) :
    (run s 0 true).matchThen k c = k (c.advance (c.rest.takeWhile s.contains).length) := by
  obtain ⟨shorter, he, hd⟩ := runEnds_zero (s := s) c [] rfl
  simp only [matchThen, if_true, he, List.append_nil, List.findSome?_cons]
  cases hl : k (c.advance (c.rest.takeWhile s.contains).length) with
  | some d => rfl
  | none =>
    refine List.findSome?_eq_none_iff.mpr fun d h => ?_
    obtain ⟨n, hn, rfl⟩ := hd d h
    simpa [hl] using hk n hn

-- If a match begins right after a character of the leading class, one begins before it.
theorem matchThen_isSome_of_leadingRun {r : Regex} {s : CharClass} (hs : r.leadingRun = some s)
    {k : Continuation} {c : Cursor} {x : Char} {rest : Text} (hc : c.rest = x :: rest)
    (hx : s.contains x = true) (h : (r.matchThen k (c.step x rest)).isSome) :
    (r.matchThen k c).isSome := by
  induction r generalizing k with
  | run t least greedy =>
    -- The run from before the character takes one more and ends at the same place.
    obtain rfl : t = s := by simpa [leadingRun] using hs
    obtain ⟨n, ⟨hn, hl, ha⟩, hk⟩ := matchThen_run_isSome.mp h
    refine matchThen_run_isSome.mpr ⟨n + 1, ?_, by rwa [Cursor.advance_step hc]⟩
    rw [hc, runTo_cons]
    exact ⟨hx, by omega, hl, ha⟩
  | seq r q ih => exact ih hs h
  | _ => simp [leadingRun] at hs

theorem matchAt_step_eq_none {r : Regex} {c : Cursor} {x : Char} {rest : Text}
    (hc : c.rest = x :: rest) (hx : leads r.leadingRun x = true) (h : r.matchAt c = none) :
    r.matchAt (c.step x rest) = none := by
  cases hs : r.leadingRun with
  | none => simp [leads, hs] at hx
  | some s =>
    rw [← Option.not_isSome_iff_eq_none] at h ⊢
    rw [hs] at hx
    exact fun hn => h (matchThen_isSome_of_leadingRun hs hc hx hn)

end Regex

end SnippetReview.Pattern
