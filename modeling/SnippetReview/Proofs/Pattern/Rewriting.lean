import SnippetReview.Proofs.Pattern.Runs

/-!
Search and replacement for expressions whose matches depend on the text around them alone: a search
finds what matches somewhere, and a replacement rewrites all matches from the left.
-/

namespace SnippetReview.Pattern

def Somewhere (P : Option Char → Text → Prop) : Option Char → Text → Prop
  | prev, [] => P prev []
  | prev, x :: rest => P prev (x :: rest) ∨ Somewhere P (some x) rest

theorem Somewhere.here {P : Option Char → Text → Prop} {prev : Option Char} {text : Text}
    (h : P prev text) : Somewhere P prev text := by
  cases text with
  | nil => exact h
  | cons x rest => exact .inl h

theorem Somewhere.exists {P : Option Char → Text → Prop} {prev : Option Char} {text : Text}
    (h : Somewhere P prev text) : ∃ prev rest, P prev rest := by
  induction text generalizing prev with
  | nil => exact ⟨_, _, h⟩
  | cons x rest ih => exact h.elim (fun h => ⟨_, _, h⟩) ih

theorem Somewhere.exists_append {P : Option Char → Text → Prop} {prev : Option Char} {text : Text}
    (h : Somewhere P prev text) :
    ∃ before rest, text = before ++ rest ∧ P (lastOr before prev) rest := by
  induction text generalizing prev with
  | nil => exact ⟨[], [], rfl, h⟩
  | cons x text ih =>
    rcases h with h | h
    · exact ⟨[], x :: text, rfl, h⟩
    · obtain ⟨before, rest, rfl, hp⟩ := ih h
      exact ⟨x :: before, rest, rfl, by rwa [lastOr_cons]⟩

theorem Somewhere.bind {P Q : Option Char → Text → Prop} {prev : Option Char} {text : Text}
    (h : Somewhere P prev text) (hpq : ∀ prev rest, P prev rest → Somewhere Q prev rest) :
    Somewhere Q prev text := by
  induction text generalizing prev with
  | nil => exact hpq _ _ h
  | cons x rest ih =>
    rcases h with h | h
    · exact hpq _ _ h
    · exact .inr (ih h)

theorem somewhere_append {P : Option Char → Text → Prop} {prev : Option Char}
    {before after : Text} :
    Somewhere P prev (before ++ after) ↔
      (∃ k < before.length, P (lastOr (before.take k) prev) (before.drop k ++ after)) ∨
        Somewhere P (lastOr before prev) after := by
  induction before generalizing prev with
  | nil => simp [lastOr_nil]
  | cons x before ih =>
    simp only [List.cons_append, Somewhere, ih, ← or_assoc, lastOr_cons]
    apply or_congr_left
    constructor
    · rintro (h | ⟨k, hk, h⟩)
      · exact ⟨0, by simp, h⟩
      · exact ⟨k + 1, by simpa using hk, by simpa [lastOr_cons] using h⟩
    · rintro ⟨k, hk, h⟩
      cases k with
      | zero => exact .inl h
      | succ k => exact .inr ⟨k, by simpa using hk, by simpa [lastOr_cons] using h⟩

namespace Regex

theorem occursFrom_of_somewhere {r : Regex} {P : Option Char → Text → Prop}
    (h : ∀ c : Cursor, P c.prev c.rest → (r.matchAt c).isSome) {known : Bool} {c : Cursor}
    {rest : Text} (hc : c.rest = rest) (hk : known = true → r.matchAt c = none)
    (hs : Somewhere P c.prev rest) : r.occursFrom r.leadingRun known c rest = true := by
  induction rest generalizing c known with
  | nil =>
    have hm := h c (hc ▸ hs)
    have hn : known = false := by
      cases known with
      | false => rfl
      | true => simp [hk rfl] at hm
    simp [occursFrom, hn, hm]
  | cons x rest ih =>
    rw [occursFrom]
    split
    · rfl
    · rename_i hn
      have hm : r.matchAt c = none := by
        cases known with
        | false => simpa using hn
        | true => exact hk rfl
      rcases hs with hp | hs
      · have hp' := h c (hc ▸ hp)
        simp [hm] at hp'
      · exact ih rfl (fun hx => matchAt_step_eq_none hc hx hm) hs

theorem occursIn_of_somewhere {r : Regex} {P : Option Char → Text → Prop}
    (h : ∀ c : Cursor, P c.prev c.rest → (r.matchAt c).isSome) {text : Text}
    (hs : Somewhere P none text) : r.occursIn text = true :=
  occursFrom_of_somewhere h rfl (by simp) hs

section

variable {r : Regex} {lead : Option CharClass} {new : Text} {afterMatch known : Bool} {c : Cursor}
  {out rest : Text} {x : Char}

theorem replaceFrom_nil (h : (if known then none else r.matchAt c) = none) :
    r.replaceFrom lead new ⟨0, afterMatch, known⟩ c out [] = out.reverse := by
  simp [replaceFrom, h]

theorem replaceFrom_miss (h : (if known then none else r.matchAt c) = none) :
    r.replaceFrom lead new ⟨0, afterMatch, known⟩ c out (x :: rest) =
      r.replaceFrom lead new ⟨0, false, leads lead x⟩ (c.step x rest) (x :: out) rest := by
  simp [replaceFrom, h]

theorem replaceFrom_hit {n : Nat} (h : r.matchAt c = some (c.advance (n + 1)))
    (hn : n + 1 ≤ c.rest.length) :
    r.replaceFrom lead new ⟨0, afterMatch, false⟩ c out (x :: rest) =
      r.replaceFrom lead new ⟨n, true, false⟩ (c.step x rest) (new.reverseAux out) rest := by
  have hp : (c.advance (n + 1)).pos = c.pos + n + 1 := by rw [Cursor.advance_eq hn]; rfl
  simp [replaceFrom, h, hp, Nat.add_assoc]

theorem replaceFrom_of_not_occursFrom (h : r.occursFrom lead known c rest = false) :
    r.replaceFrom lead new ⟨0, afterMatch, known⟩ c out rest = out.reverse ++ rest := by
  induction rest generalizing afterMatch known c out with
  | nil =>
    have hm : (if known then none else r.matchAt c) = none := by
      cases known <;> simp_all [occursFrom]
    rw [replaceFrom_nil hm, List.append_nil]
  | cons x rest ih =>
    have hm : (if known then none else r.matchAt c) = none := by
      cases known <;> simp_all [occursFrom]
    have ht : r.occursFrom lead (leads lead x) (c.step x rest) rest = false := by
      cases known <;> simp_all [occursFrom]
    rw [replaceFrom_miss hm, ih ht, List.reverse_cons, List.append_assoc]
    rfl

theorem replaceAll_of_not_occursIn {text : Text} (h : r.occursIn text = false) :
    r.replaceAll new text = text :=
  replaceFrom_of_not_occursFrom h

end

end Regex

/-- How many characters are matched at a place, if any. Matches are not empty. -/
structure Matcher where
  width? : Option Char → Text → Option Nat
  bounds : ∀ prev rest n, width? prev rest = some n → 0 < n ∧ n ≤ rest.length

namespace Matcher

def Hits (m : Matcher) (prev : Option Char) (rest : Text) : Prop :=
  (m.width? prev rest).isSome

theorem width?_nil (m : Matcher) (prev : Option Char) : m.width? prev [] = none := by
  cases h : m.width? prev [] with
  | none => rfl
  | some n => have := m.bounds prev [] n h; simp at this; omega

end Matcher

def Regex.Realizes (r : Regex) (m : Matcher) : Prop :=
  ∀ c, r.matchAt c = (m.width? c.prev c.rest).map fun n => c.advance n

theorem Regex.Realizes.isSome_iff {r : Regex} {m : Matcher} (hr : r.Realizes m) (c : Cursor) :
    (r.matchAt c).isSome ↔ m.Hits c.prev c.rest := by
  rw [hr c, Option.isSome_map, Matcher.Hits]

theorem Regex.Realizes.found_iff {r : Regex} {m : Matcher} (hr : r.Realizes m) {known : Bool}
    {c : Cursor} (hk : known = true → r.matchAt c = none) :
    (!known && (r.matchAt c).isSome) = true ↔ m.Hits c.prev c.rest := by
  rw [← hr.isSome_iff c]
  cases known <;> simp_all

theorem Regex.Realizes.occursFrom_iff {r : Regex} {m : Matcher} (hr : r.Realizes m) {known : Bool}
    {c : Cursor} {rest : Text} (hc : c.rest = rest) (hk : known = true → r.matchAt c = none) :
    r.occursFrom r.leadingRun known c rest = true ↔ Somewhere m.Hits c.prev rest := by
  have here := hr.found_iff hk
  rw [hc] at here
  induction rest generalizing c known with
  | nil =>
    simp only [occursFrom, Somewhere, ← here]
    split <;> simp_all
  | cons x rest ih =>
    by_cases h : m.Hits c.prev (x :: rest)
    · simp [occursFrom, Somewhere, here.mpr h, h]
    · have hn : r.matchAt c = none := by
        rwa [← Option.not_isSome_iff_eq_none, hr.isSome_iff, hc]
      have hs : leads r.leadingRun x = true → r.matchAt (c.step x rest) = none :=
        fun hx => matchAt_step_eq_none hc hx hn
      simp only [occursFrom, Somewhere, h, false_or, hn, Option.isSome_none, Bool.and_false,
        Bool.false_eq_true, if_false]
      exact ih (c := c.step x rest) rfl hs (hr.found_iff hs)

theorem Regex.Realizes.occursIn_iff {r : Regex} {m : Matcher} (hr : r.Realizes m) (text : Text) :
    r.occursIn text = true ↔ Somewhere m.Hits none text :=
  hr.occursFrom_iff rfl (by simp)

inductive Rewrites (m : Matcher) (new : Text) : Option Char → Text → Text → Prop
  | done {prev : Option Char} : Rewrites m new prev [] []
  | keep {prev : Option Char} {x : Char} {rest out : Text} (miss : m.width? prev (x :: rest) = none)
      (h : Rewrites m new (some x) rest out) : Rewrites m new prev (x :: rest) (x :: out)
  | replace {prev : Option Char} {found rest out : Text}
      (hit : m.width? prev (found ++ rest) = some found.length)
      (h : Rewrites m new found.getLast? rest out) :
      Rewrites m new prev (found ++ rest) (new ++ out)

theorem Rewrites.replace_cons {m : Matcher} {new : Text} {prev : Option Char} {x : Char}
    {rest out : Text} {n : Nat} (hit : m.width? prev (x :: rest) = some (n + 1))
    (h : Rewrites m new (lastOr (rest.take n) (some x)) (rest.drop n) out) :
    Rewrites m new prev (x :: rest) (new ++ out) := by
  have hl : n ≤ rest.length := by simpa using (m.bounds _ _ _ hit).2
  have hw : m.width? prev ((x :: rest.take n) ++ rest.drop n) = some (x :: rest.take n).length := by
    simp [hit, hl]
  have hr := Rewrites.replace hw (by simpa [lastOr, List.getLast?_cons] using h)
  simpa using hr

theorem Rewrites.of_miss {m : Matcher} {new : Text} {prev : Option Char} {x : Char}
    {rest out : Text}
    (h : Rewrites m new prev (x :: rest) out) (miss : m.width? prev (x :: rest) = none) :
    ∃ tail, out = x :: tail ∧ Rewrites m new (some x) rest tail := by
  generalize ht : x :: rest = text at h
  cases h with
  | done => cases ht
  | keep _ h =>
    cases ht
    exact ⟨_, rfl, h⟩
  | replace hit _ =>
    rw [← ht, miss] at hit
    cases hit

theorem Rewrites.of_hit {m : Matcher} {new : Text} {prev : Option Char} {found rest out : Text}
    (h : Rewrites m new prev (found ++ rest) out)
    (hit : m.width? prev (found ++ rest) = some found.length) :
    ∃ tail, out = new ++ tail ∧ Rewrites m new found.getLast? rest tail := by
  generalize ht : found ++ rest = text at h
  cases h with
  | done =>
    rw [ht, m.width?_nil] at hit
    cases hit
  | keep miss _ =>
    rw [ht, miss] at hit
    cases hit
  | @replace _ found' rest' tail hit' h =>
    rw [ht, hit'] at hit
    obtain ⟨rfl, rfl⟩ := List.append_inj ht (Option.some.inj hit).symm
    exact ⟨tail, rfl, h⟩

theorem Rewrites.unique {m : Matcher} {new : Text} {prev : Option Char} {text out out' : Text}
    (h : Rewrites m new prev text out) (h' : Rewrites m new prev text out') : out' = out := by
  induction h generalizing out' with
  | done =>
    generalize ht : ([] : Text) = text at h'
    cases h' with
    | done => rfl
    | keep => cases ht
    | replace hit _ =>
      rw [← ht, m.width?_nil] at hit
      cases hit
  | keep miss _ ih =>
    obtain ⟨tail, rfl, ht⟩ := h'.of_miss miss
    rw [ih ht]
  | replace hit _ ih =>
    obtain ⟨tail, rfl, ht⟩ := h'.of_hit hit
    rw [ih ht]

theorem Rewrites.eq_nil {m : Matcher} {new : Text} {prev : Option Char} {text : Text}
    (h : Rewrites m new prev text []) (hn : new ≠ []) : text = [] := by
  generalize ht : ([] : Text) = out at h
  cases h with
  | done => rfl
  | keep => cases ht
  | replace => exact absurd (List.append_eq_nil_iff.mp ht.symm).1 hn

theorem Rewrites.of_width? {m : Matcher} {new : Text} {prev before : Option Char} {text out : Text}
    (h : ∀ rest, m.width? before rest = m.width? prev rest) (hr : Rewrites m new prev text out) :
    Rewrites m new before text out := by
  cases hr with
  | done => exact .done
  | keep miss hr => exact .keep ((h _).trans miss) hr
  | replace hit hr => exact .replace ((h _).trans hit) hr

theorem Rewrites.mem_or_mem {m : Matcher} {new : Text} {prev : Option Char} {text out : Text}
    (h : Rewrites m new prev text out) {x : Char} (hx : x ∈ out) : x ∈ text ∨ x ∈ new := by
  induction h with
  | done => exact .inl hx
  | keep _ _ ih =>
    rcases List.mem_cons.mp hx with rfl | hx
    · exact .inl List.mem_cons_self
    · exact (ih hx).imp_left (List.mem_cons_of_mem _)
  | replace _ _ ih =>
    rcases List.mem_append.mp hx with hx | hx
    · exact .inr hx
    · exact (ih hx).imp_left (List.mem_append_right _)

theorem Regex.Realizes.rewrites_replaceFrom {r : Regex} {m : Matcher} (hr : r.Realizes m)
    (new : Text) (skip : Nat) (afterMatch known : Bool) (c : Cursor) (out : Text) {rest : Text}
    (hc : c.rest = rest) (hs : skip ≤ rest.length)
    (hk : known = true → skip = 0 → r.matchAt c = none) :
    ∃ tail, r.replaceFrom r.leadingRun new ⟨skip, afterMatch, known⟩ c out rest =
        out.reverse ++ tail ∧
      Rewrites m new (lastOr (rest.take skip) c.prev) (rest.drop skip) tail := by
  induction rest generalizing skip afterMatch known c out with
  | nil =>
    obtain rfl : skip = 0 := by simpa using hs
    have hn : r.matchAt c = none := by rw [hr c, hc, m.width?_nil]; rfl
    exact ⟨[], by rw [replaceFrom_nil (by simp [hn]), List.append_nil], .done⟩
  | cons x rest ih =>
    cases skip with
    | succ skip =>
      obtain ⟨tail, he, ht⟩ := ih skip true false (c.step x rest) out rfl (by simpa using hs)
        (by simp)
      exact ⟨tail, he, by simpa [lastOr_cons, Cursor.step] using ht⟩
    | zero =>
      cases hm : m.width? c.prev (x :: rest) with
      | none =>
        have hn : r.matchAt c = none := by rw [hr c, hc, hm]; rfl
        obtain ⟨tail, he, ht⟩ := ih 0 false (leads r.leadingRun x) (c.step x rest) (x :: out)
          rfl (by simp) (fun hx _ => matchAt_step_eq_none hc hx hn)
        exact ⟨x :: tail, by simp [replaceFrom_miss, hn, he], .keep hm ht⟩
      | some n =>
        have hn : r.matchAt c = some (c.advance n) := by rw [hr c, hc, hm]; rfl
        obtain ⟨h0, hl⟩ := m.bounds _ _ _ hm
        obtain ⟨n, rfl⟩ : ∃ k, n = k + 1 := ⟨n - 1, by omega⟩
        -- A match cannot begin where none is known to begin.
        obtain rfl : known = false := by
          cases known with
          | false => rfl
          | true => rw [hk rfl rfl] at hn; cases hn
        obtain ⟨tail, he, ht⟩ := ih n true false (c.step x rest) (new.reverseAux out) rfl
          (by simpa using hl) (by simp)
        refine ⟨new ++ tail, ?_, .replace_cons hm ht⟩
        rw [replaceFrom_hit hn (by rwa [hc]), he, List.reverseAux_eq, List.reverse_append,
          List.reverse_reverse, List.append_assoc]

theorem Regex.Realizes.rewrites_replaceAll {r : Regex} {m : Matcher} (hr : r.Realizes m)
    (new text : Text) : Rewrites m new none text (r.replaceAll new text) := by
  have hs : (Cursor.start text).rest = text := rfl
  obtain ⟨tail, he, ht⟩ := hr.rewrites_replaceFrom new 0 false false (Cursor.start text) [] hs
    (Nat.zero_le text.length) (by simp)
  rw [replaceAll, he]
  exact ht

end SnippetReview.Pattern
