import SnippetReview.Proofs.Pattern.Rewriting

namespace SnippetReview.Pattern

theorem Cursor.advance_append {c : Cursor} {w rest : Text} (h : c.rest = w ++ rest) :
    c.advance w.length = ⟨c.pos + w.length, lastOr w c.prev, rest⟩ := by
  rw [advance_eq (by simp [h]), h, List.take_left' rfl, List.drop_left' rfl]

def Assertion.HoldsBetween (a : Assertion) (prev next : Option Char) : Prop :=
  a.holds ⟨0, prev, next.toList⟩ = true

theorem Assertion.holdsBetween_iff (a : Assertion) (c : Cursor) :
    a.HoldsBetween c.prev c.rest.head? ↔ a.holds c = true := by
  rw [HoldsBetween]
  cases a <;> cases hr : c.rest <;> simp [holds, Cursor.next, hr]

namespace Regex

inductive Matches : Regex → Option Char → Text → Option Char → Prop
  | empty {prev next : Option Char} : Matches .empty prev [] next
  | chars {s : CharClass} {x : Char} {prev next : Option Char} (h : s.contains x = true) :
      Matches (.chars s) prev [x] next
  | look {a : Assertion} {prev next : Option Char} (h : a.HoldsBetween prev next) :
      Matches (.look a) prev [] next
  | seq {r q : Regex} {u v : Text} {prev next : Option Char}
      (first : Matches r prev u (v.head?.or next)) (second : Matches q (lastOr u prev) v next) :
      Matches (.seq r q) prev (u ++ v) next
  | altLeft {r q : Regex} {w : Text} {prev next : Option Char} (h : Matches r prev w next) :
      Matches (.alt r q) prev w next
  | altRight {r q : Regex} {w : Text} {prev next : Option Char} (h : Matches q prev w next) :
      Matches (.alt r q) prev w next
  | run {s : CharClass} {least : Nat} {greedy : Bool} {w : Text} {prev next : Option Char}
      (enough : least ≤ w.length) (h : ∀ x ∈ w, s.contains x = true) :
      Matches (.run s least greedy) prev w next
  | starStop {r : Regex} {greedy : Bool} {prev next : Option Char} :
      Matches (.star r greedy) prev [] next
  | starMore {r : Regex} {greedy : Bool} {u v : Text} {prev next : Option Char}
      (first : Matches r prev u (v.head?.or next))
      (later : Matches (.star r greedy) (lastOr u prev) v next) :
      Matches (.star r greedy) prev (u ++ v) next
  | copiesStop {r : Regex} {prev next : Option Char} : Matches (.copies r 0) prev [] next
  | copiesMore {r : Regex} {n : Nat} {u v : Text} {prev next : Option Char}
      (first : Matches r prev u (v.head?.or next))
      (later : Matches (.copies r n) (lastOr u prev) v next) :
      Matches (.copies r (n + 1)) prev (u ++ v) next
  | upToStop {r : Regex} {n : Nat} {greedy : Bool} {prev next : Option Char} :
      Matches (.upTo r n greedy) prev [] next
  | upToMore {r : Regex} {n : Nat} {greedy : Bool} {u v : Text} {prev next : Option Char}
      (first : Matches r prev u (v.head?.or next))
      (later : Matches (.upTo r n greedy) (lastOr u prev) v next) :
      Matches (.upTo r (n + 1) greedy) prev (u ++ v) next

theorem choose_eq_some {greedy : Bool} {more stop : Unit → Option Cursor} {d : Cursor}
    (h : choose greedy more stop = some d) : more () = some d ∨ stop () = some d := by
  cases greedy <;> cases hm : more () <;> cases hs : stop () <;>
    simp_all [choose, orElse]

theorem choose_isSome {greedy : Bool} {more stop : Unit → Option Cursor} :
    (choose greedy more stop).isSome ↔ (more ()).isSome ∨ (stop ()).isSome := by
  cases greedy
  · rw [choose, if_neg Bool.false_ne_true, orElse_isSome, or_comm]
  · rw [choose, if_pos rfl, orElse_isSome]

/-! ### What is matched -/

def Takes (r : Regex) (k : Continuation) (c d : Cursor) : Prop :=
  ∃ w rest, c.rest = w ++ rest ∧ r.Matches c.prev w rest.head? ∧ k (c.advance w.length) = some d

theorem Takes.stop {r : Regex} {k : Continuation} {c d : Cursor}
    (h : r.Matches c.prev [] c.rest.head?) (hk : k c = some d) : r.Takes k c d :=
  ⟨[], c.rest, rfl, h, hk⟩

-- Two expressions in a row, where `r` gives what matches for both.
theorem Takes.append {r q p : Regex} {k : Continuation} {c d : Cursor}
    (join : ∀ {prev u v next}, r.Matches prev u (v.head?.or next) →
      q.Matches (lastOr u prev) v next → p.Matches prev (u ++ v) next)
    {m : Continuation} (first : r.Takes m c d)
    (later : ∀ e, m e = some d → q.Takes k e d) : p.Takes k c d := by
  obtain ⟨u, rest, hc, hu, hm⟩ := first
  obtain ⟨v, after, hv, hq, hk⟩ := later _ hm
  rw [Cursor.advance_append hc] at hv hq
  obtain rfl : rest = v ++ after := hv
  refine ⟨u ++ v, after, by rw [hc, List.append_assoc], ?_, ?_⟩
  · rw [List.head?_append] at hu
    exact join hu hq
  · rw [List.length_append, Cursor.advance_add]
    exact hk

theorem orElse_eq_some {first : Option Cursor} {second : Unit → Option Cursor} {d : Cursor}
    (h : orElse first second = some d) : first = some d ∨ second () = some d := by
  cases first with
  | some e => exact .inl h
  | none => exact .inr h

theorem exists_of_shortestRun {s : CharClass} {k : Continuation} {least : Nat} {c d : Cursor}
    {rest : Text} (hc : c.rest = rest) (h : shortestRun s k least c rest = some d) :
    ∃ n, RunTo s least rest n ∧ k (c.advance n) = some d := by
  induction rest generalizing least c with
  | nil =>
    rw [shortestRun] at h
    have hk := (orElse_eq_some h).resolve_right (by simp)
    simp only [Option.ite_none_right_eq_some, beq_iff_eq] at hk
    exact ⟨0, runTo_zero.mpr hk.1, hk.2⟩
  | cons x rest ih =>
    rw [shortestRun] at h
    rcases orElse_eq_some h with hk | hk
    · simp only [Option.ite_none_right_eq_some, beq_iff_eq] at hk
      exact ⟨0, runTo_zero.mpr hk.1, hk.2⟩
    · rw [Option.ite_none_right_eq_some] at hk
      obtain ⟨n, hn, hd⟩ := ih (c := c.step x rest) rfl hk.2
      exact ⟨n + 1, runTo_cons.mpr ⟨hk.1, hn⟩, by rwa [Cursor.advance_step hc]⟩

theorem exists_of_run {s : CharClass} {least : Nat} {greedy : Bool} {k : Continuation}
    {c d : Cursor} (h : (run s least greedy).matchThen k c = some d) :
    ∃ n, RunTo s least c.rest n ∧ k (c.advance n) = some d := by
  cases greedy with
  | true =>
    rw [matchThen, if_pos rfl] at h
    obtain ⟨e, he, hk⟩ := List.exists_of_findSome?_eq_some h
    obtain ⟨n, hn, rfl⟩ := ((mem_runEnds rfl).mp he).resolve_left List.not_mem_nil
    exact ⟨n, hn, hk⟩
  | false => exact exists_of_shortestRun rfl h

theorem takes_of_repeatStep {r : Regex} {greedy : Bool} {k : Continuation} {fuel : Text}
    {c d : Cursor} (ih : ∀ {k c}, r.matchThen k c = some d → r.Takes k c d)
    (h : repeatStep r.matchThen greedy k fuel c = some d) : (star r greedy).Takes k c d := by
  induction fuel generalizing c with
  | nil => exact .stop .starStop h
  | cons x fuel later =>
    rw [repeatStep] at h
    rcases choose_eq_some h with h | h
    · refine .append .starMore (ih h) fun e he => ?_
      split at he
      · exact later he
      · exact .stop .starStop he
    · exact .stop .starStop h

theorem takes_of_times {r : Regex} {k : Continuation} {n : Nat} {c d : Cursor}
    (ih : ∀ {k c}, r.matchThen k c = some d → r.Takes k c d)
    (h : times r.matchThen k n c = some d) : (copies r n).Takes k c d := by
  induction n generalizing c with
  | zero => exact .stop .copiesStop h
  | succ n later => exact .append .copiesMore (ih h) fun _ => later

theorem takes_of_atMost {r : Regex} {greedy : Bool} {k : Continuation} {n : Nat} {c d : Cursor}
    (ih : ∀ {k c}, r.matchThen k c = some d → r.Takes k c d)
    (h : atMost r.matchThen greedy k n c = some d) : (upTo r n greedy).Takes k c d := by
  induction n generalizing c with
  | zero => exact .stop .upToStop h
  | succ n later =>
    rw [atMost] at h
    rcases choose_eq_some h with h | h
    · exact .append .upToMore (ih h) fun _ => later
    · exact .stop .upToStop h

theorem takes_of_matchThen {r : Regex} {k : Continuation} {c d : Cursor}
    (h : r.matchThen k c = some d) : r.Takes k c d := by
  induction r generalizing k c with
  | empty => exact .stop .empty h
  | chars s =>
    rw [matchThen] at h
    cases hr : c.rest with
    | nil => simp [hr] at h
    | cons x rest =>
      simp only [hr, Option.ite_none_right_eq_some] at h
      refine ⟨[x], rest, hr, .chars h.1, ?_⟩
      rw [List.length_singleton, Cursor.advance_step hr, Cursor.advance_zero]
      exact h.2
  | look a =>
    rw [matchThen, Option.ite_none_right_eq_some] at h
    exact .stop (.look ((a.holdsBetween_iff c).mpr h.1)) h.2
  | seq r q ihr ihq => exact .append .seq (ihr h) fun _ => ihq
  | alt r q ihr ihq =>
    rcases orElse_eq_some h with h | h
    · obtain ⟨w, rest, hc, hm, hk⟩ := ihr h
      exact ⟨w, rest, hc, .altLeft hm, hk⟩
    · obtain ⟨w, rest, hc, hm, hk⟩ := ihq h
      exact ⟨w, rest, hc, .altRight hm, hk⟩
  | run s least greedy =>
    obtain ⟨n, ⟨hn, hl, hs⟩, hk⟩ := exists_of_run h
    have hlen : (c.rest.take n).length = n := List.length_take_of_le hl
    refine ⟨c.rest.take n, c.rest.drop n, (List.take_append_drop n c.rest).symm, ?_, ?_⟩
    · exact .run (by rwa [hlen]) hs
    · rwa [hlen]
  | star r greedy ih => exact takes_of_repeatStep ih h
  | copies r n ih => exact takes_of_times ih h
  | upTo r n greedy ih => exact takes_of_atMost ih h

/-! ### What matches is found -/

/-- If something goes on behind a text that the expression matches, the matcher finds a way. -/
def FindsAll (r : Regex) : Prop :=
  ∀ {k : Continuation} {c : Cursor} {w rest : Text}, c.rest = w ++ rest →
    r.Matches c.prev w rest.head? → (k (c.advance w.length)).isSome → (r.matchThen k c).isSome

-- The first of two texts in a row, and where the second begins.
theorem FindsAll.append {r : Regex} (hr : r.FindsAll) {k m : Continuation} {c : Cursor}
    {u v rest : Text} (hc : c.rest = (u ++ v) ++ rest)
    (h : r.Matches c.prev u (v.head?.or rest.head?))
    (hm : ∀ e : Cursor, e = c.advance u.length → e.prev = lastOr u c.prev → e.rest = v ++ rest →
      (k (e.advance v.length)).isSome → (m e).isSome)
    (hk : (k (c.advance (u ++ v).length)).isSome) : (r.matchThen m c).isSome := by
  rw [List.append_assoc] at hc
  rw [List.length_append, Cursor.advance_add] at hk
  refine hr hc (by rwa [List.head?_append]) (hm _ rfl ?_ ?_ hk)
  · rw [Cursor.advance_append hc]
  · rw [Cursor.advance_append hc]

theorem repeatStep_isSome {r : Regex} (hr : r.FindsAll) {greedy : Bool} {k : Continuation}
    {prev next : Option Char} {w : Text} (h : (star r greedy).Matches prev w next) {c : Cursor}
    {fuel rest : Text} (hf : c.rest.length ≤ fuel.length) (hp : c.prev = prev)
    (hc : c.rest = w ++ rest) (hn : rest.head? = next) (hk : (k (c.advance w.length)).isSome) :
    (repeatStep r.matchThen greedy k fuel c).isSome := by
  generalize hs : star r greedy = s at h
  induction h generalizing c fuel with
  | starStop =>
    cases fuel with
    | nil => exact hk
    | cons x fuel => exact choose_isSome.mpr (.inr hk)
  | @starMore _ _ u v _ _ first _ _ later =>
    cases hs
    subst hp hn
    cases u with
    | nil => exact later hf rfl hc rfl hk rfl
    | cons x u =>
      cases fuel with
      | nil => simp [hc] at hf
      | cons y fuel =>
        refine choose_isSome.mpr (.inl (hr.append hc first (fun e he hp hrest hk => ?_) hk))
        -- The round took a character, so the fuel that is left is enough for the text that is left.
        have hpos : c.pos < e.pos := by
          rw [he, Cursor.advance_eq (by simp [hc])]
          exact Nat.lt_add_of_pos_right (Nat.zero_lt_succ _)
        rw [if_pos hpos]
        refine later ?_ hp hrest rfl hk rfl
        rw [hrest]
        rw [hc] at hf
        simp only [List.cons_append, List.length_cons, List.length_append] at hf ⊢
        omega
  | _ => cases hs

theorem findsAll (r : Regex) : r.FindsAll := by
  induction r with
  | empty =>
    intro k c w rest hc h hk
    cases h
    exact hk
  | chars s =>
    intro k c w rest hc h hk
    cases h with
    | chars hx =>
      rw [List.length_singleton, Cursor.advance_step hc] at hk
      simpa [matchThen, hc, hx, Cursor.advance_zero] using hk
  | look a =>
    intro k c w rest hc h hk
    cases h with
    | look ha =>
      obtain rfl : c.rest = rest := hc
      rw [matchThen, if_pos ((a.holdsBetween_iff c).mp ha)]
      exact hk
  | seq r q ihr ihq =>
    intro k c w rest hc h hk
    cases h with
    | seq first second =>
      refine ihr.append hc first (fun e _ hp hrest hk => ihq hrest ?_ hk) hk
      rwa [hp]
  | alt r q ihr ihq =>
    intro k c w rest hc h hk
    rw [matchThen, orElse_isSome]
    cases h with
    | altLeft h => exact .inl (ihr hc h hk)
    | altRight h => exact .inr (ihq hc h hk)
  | run s least greedy =>
    intro k c w rest hc h hk
    cases h with
    | run enough hs =>
      refine matchThen_run_isSome.mpr ⟨w.length, ⟨enough, by simp [hc], ?_⟩, hk⟩
      rwa [hc, List.take_left' rfl]
  | star r greedy ih =>
    intro k c w rest hc h hk
    exact repeatStep_isSome ih h (Nat.le_refl _) rfl hc rfl hk
  | copies r n ih =>
    intro k c w rest hc h hk
    rw [matchThen]
    induction n generalizing c w with
    | zero =>
      cases h
      exact hk
    | succ n later =>
      cases h with
      | copiesMore first h =>
        refine ih.append hc first (fun e _ hp hrest hk => later hrest ?_ hk) hk
        rwa [hp]
  | upTo r n greedy ih =>
    intro k c w rest hc h hk
    rw [matchThen]
    induction n generalizing c w with
    | zero =>
      cases h
      exact hk
    | succ n later =>
      cases h with
      | upToStop => exact choose_isSome.mpr (.inr hk)
      | upToMore first h =>
        refine choose_isSome.mpr (.inl (ih.append hc first (fun e _ hp hrest hk => ?_) hk))
        refine later hrest ?_ hk
        rwa [hp]

/-! ### Search -/

def MatchesAt (r : Regex) (prev : Option Char) (rest : Text) : Prop :=
  ∃ w after, rest = w ++ after ∧ r.Matches prev w after.head?

theorem matchAt_isSome_iff (r : Regex) (c : Cursor) :
    (r.matchAt c).isSome ↔ r.MatchesAt c.prev c.rest := by
  constructor
  · intro h
    obtain ⟨d, hd⟩ := Option.isSome_iff_exists.mp h
    obtain ⟨w, rest, hc, hm, -⟩ := takes_of_matchThen hd
    exact ⟨w, rest, hc, hm⟩
  · rintro ⟨w, rest, hc, hm⟩
    exact r.findsAll hc hm rfl

theorem exists_of_matchAt {r : Regex} {c d : Cursor} (h : r.matchAt c = some d) :
    ∃ w rest, c.rest = w ++ rest ∧ r.Matches c.prev w rest.head? ∧ d = c.advance w.length := by
  obtain ⟨w, rest, hc, hm, hd⟩ := takes_of_matchThen h
  exact ⟨w, rest, hc, hm, (Option.some.inj hd).symm⟩

theorem occursIn_of_matchesAt {r : Regex} (before : Text) {rest : Text}
    (h : r.MatchesAt (lastOr before none) rest) : r.occursIn (before ++ rest) = true :=
  occursIn_of_somewhere (fun c => (r.matchAt_isSome_iff c).mpr)
    (somewhere_append.mpr (.inr (.here h)))

theorem exists_of_occursFrom {r : Regex} {lead : Option CharClass} {known : Bool} {c : Cursor}
    {rest : Text} (hc : c.rest = rest) (h : r.occursFrom lead known c rest = true) :
    ∃ n ≤ rest.length, (r.matchAt (c.advance n)).isSome := by
  induction rest generalizing known c with
  | nil =>
    have hm : (r.matchAt c).isSome := by
      cases known <;> simp_all [occursFrom]
    exact ⟨0, Nat.le_refl _, hm⟩
  | cons x rest ih =>
    rw [occursFrom] at h
    split at h
    · rename_i hm
      rw [Bool.and_eq_true] at hm
      exact ⟨0, Nat.zero_le _, hm.2⟩
    · obtain ⟨n, hn, hm⟩ := ih (c := c.step x rest) rfl h
      exact ⟨n + 1, Nat.succ_le_succ hn, by rwa [Cursor.advance_step hc]⟩

theorem exists_of_occursIn {r : Regex} {text : Text} (h : r.occursIn text = true) :
    ∃ n ≤ text.length, (r.matchAt ((Cursor.start text).advance n)).isSome :=
  exists_of_occursFrom rfl h

end Regex

end SnippetReview.Pattern
