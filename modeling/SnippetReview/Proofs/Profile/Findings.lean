import Mathlib.Data.List.Forall2
import SnippetReview.Proofs.Text.Decimal
import SnippetReview.Proofs.Text.Pieces
import SnippetReview.Proofs.Text.Placeholders
import SnippetReview.Profile.Rule

namespace SnippetReview

/-! ### Places in a list -/

def hits {α : Type} (p : α → Bool) (l : List α) : List (α × Nat) :=
  l.zipIdx.filter fun x => p x.1

section

variable {α β : Type} {p : α → Bool} {l : List α}

theorem mem_hits {x : α} {i : Nat} : (x, i) ∈ hits p l ↔ l[i]? = some x ∧ p x = true := by
  rw [hits, List.mem_filter, List.mk_mem_zipIdx_iff_getElem?]

theorem map_fst_hits (p : α → Bool) (l : List α) : (hits p l).map Prod.fst = l.filter p := by
  calc (hits p l).map Prod.fst = (l.zipIdx.map Prod.fst).filter p := by
        rw [hits, List.filter_map]
        rfl
    _ = l.filter p := by rw [List.zipIdx_map_fst]

theorem pairwise_hits (p : α → Bool) (l : List α) : ((hits p l).map Prod.snd).Pairwise (· < ·) := by
  have hs : ((hits p l).map Prod.snd).Sublist (l.zipIdx.map Prod.snd) :=
    List.filter_sublist.map Prod.snd
  rw [List.zipIdx_map_snd] at hs
  exact (List.pairwise_lt_range' 1).sublist hs

theorem forall₂_hits {R : Nat → β → Prop} {f : α → β}
    (h : ∀ x i, l[i]? = some x → p x = true → R i (f x)) :
    List.Forall₂ R ((hits p l).map Prod.snd) ((hits p l).map fun hit => f hit.1) := by
  rw [List.forall₂_map_left_iff, List.forall₂_map_right_iff, List.forall₂_same]
  rintro ⟨x, i⟩ hx
  obtain ⟨hi, hp⟩ := mem_hits.mp hx
  exact h x i hi hp

theorem filterMap_eq_map_hits (p : α → Bool) (f : α → β) (l : List α) :
    l.filterMap (fun x => if p x then some (f x) else none) =
      (hits p l).map fun hit => f hit.1 := by
  calc l.filterMap (fun x => if p x then some (f x) else none) = (l.filter p).map f := by
        rw [← List.filterMap_filter, ← List.filterMap_eq_map]
        rfl
    _ = (hits p l).map fun hit => f hit.1 := by
        rw [← map_fst_hits, List.map_map]
        rfl

theorem forall₂_flatMap {γ : Type} {R : β → γ → Prop} {f : α → List β} {g : α → List γ}
    (h : ∀ x ∈ l, List.Forall₂ R (f x) (g x)) : List.Forall₂ R (l.flatMap f) (l.flatMap g) := by
  induction l with
  | nil => exact .nil
  | cons x l ih =>
    rw [List.flatMap_cons, List.flatMap_cons]
    exact List.rel_append (h x List.mem_cons_self) (ih fun y hy => h y (List.mem_cons_of_mem _ hy))

end

/-! ### Messages -/

theorem BalanceRule.describe_eq_fill (rule : BalanceRule) (openings closings : Nat) :
    rule.describe openings closings =
      Text.fill [("\x7bopen\x7d".toList, Text.ofNat openings),
        ("\x7bclose\x7d".toList, Text.ofNat closings)] rule.message := by
  have digits {x : Char} (hx : x ∈ Text.ofNat openings) : x.isDigit = true :=
    Text.isDigit_of_mem_ofNat hx
  have letters : ("close\x7d".toList.all fun x => !x.isDigit) = true := by decide
  refine Text.substitute_substitute "close\x7d".toList (by decide) (fun h => ?_)
    (Text.ofNat_ne_nil openings) (fun x hx hm => ?_) rule.message
  · exact absurd (digits h) (by decide)
  · have hn := List.all_eq_true.mp letters x hm
    rw [digits hx] at hn
    cases hn

/-! ### Findings -/

namespace Profile

theorem activeRules_congr {profile : Profile} {source other : Text}
    (h : ∀ rule ∈ profile.lineRules, rule.silencedBy source = rule.silencedBy other) :
    profile.activeRules source = profile.activeRules other := by
  apply List.filter_congr
  intro rule hr
  rw [h rule hr]

theorem balanceFindings_congr {profile : Profile} {source other : Text}
    (h : ∀ rule ∈ profile.balanceRules, source.count rule.opening = other.count rule.opening ∧
      source.count rule.closing = other.count rule.closing) :
    profile.balanceFindings source = profile.balanceFindings other := by
  apply List.filterMap_congr
  intro rule hr
  obtain ⟨ho, hc⟩ := h rule hr
  simp only [BalanceRule.check, ho, hc]

/-- Rule `j` has something to report on line `i`. -/
def Reports (profile : Profile) (source : Text) (i j : Nat) : Prop :=
  ∃ line rule, 1 ≤ i ∧ (Text.linePieces source)[i - 1]? = some line ∧
    profile.lineRules[j]? = some rule ∧
    rule.pattern.occursIn (Text.trim line) = true ∧
    (∀ r, rule.exempt = some r → r.occursIn (Text.trim line) = false) ∧
    ∀ r, rule.exemptSource = some r → r.occursIn source = false

def breaks (source line : Text) (rule : LineRule) : Bool :=
  rule.flags (Text.trim line) && !rule.silencedBy source

theorem breaks_iff {source line : Text} {rule : LineRule} :
    breaks source line rule = true ↔ rule.pattern.occursIn (Text.trim line) = true ∧
      (∀ r, rule.exempt = some r → r.occursIn (Text.trim line) = false) ∧
      ∀ r, rule.exemptSource = some r → r.occursIn source = false := by
  simp [breaks, LineRule.flags, LineRule.silencedBy, Option.any_eq_false, and_assoc]

theorem lineFindings_eq (profile : Profile) (source : Text) :
    profile.lineFindings source =
      (((Text.lines source).map Text.trim).zipIdx 1).flatMap fun (line, number) =>
        (profile.activeRules source).filterMap fun rule =>
          if rule.flags line then some (rule.finding number) else none := by
  rw [List.zipIdx_map, List.flatMap_map]
  rfl

theorem lineFindings_eq_hits (profile : Profile) (source : Text) :
    profile.lineFindings source =
      ((Text.linePieces source).zipIdx 1).flatMap fun line =>
        (hits (breaks source line.1) profile.lineRules).map fun hit => hit.1.finding line.2 := by
  rw [lineFindings_eq, Text.trim_lines, List.zipIdx_map, List.flatMap_map]
  congr 1
  funext ⟨line, number⟩
  refine Eq.trans ?_
    (filterMap_eq_map_hits (breaks source line) (fun rule => rule.finding number) _)
  change ((profile.activeRules source).filterMap fun rule =>
    if rule.flags (Text.trim line) then some (rule.finding number) else none) = _
  rw [activeRules, List.filterMap_filter]
  congr 1
  funext rule
  cases hs : rule.silencedBy source <;> simp [breaks, hs]

def unbalanced (source : Text) (rule : BalanceRule) : Bool :=
  source.count rule.opening != source.count rule.closing

def imbalance (source : Text) (rule : BalanceRule) : Finding where
  line := 1
  message := Text.fill [("\x7bopen\x7d".toList, Text.ofNat (source.count rule.opening)),
    ("\x7bclose\x7d".toList, Text.ofNat (source.count rule.closing))] rule.message
  severity := rule.severity

theorem balanceFindings_eq_hits (profile : Profile) (source : Text) :
    profile.balanceFindings source =
      (hits (unbalanced source) profile.balanceRules).map fun hit => imbalance source hit.1 := by
  rw [← filterMap_eq_map_hits, balanceFindings]
  congr 1
  funext rule
  by_cases h : source.count rule.opening = source.count rule.closing
  · simp [BalanceRule.check, unbalanced, h]
  · simp [BalanceRule.check, unbalanced, imbalance, h, BalanceRule.describe_eq_fill]

def reported (profile : Profile) (source : Text) : List (Nat × Nat) :=
  ((Text.linePieces source).zipIdx 1).flatMap fun line =>
    ((hits (breaks source line.1) profile.lineRules).map Prod.snd).map fun j => (line.2, j)

theorem mem_reported {profile : Profile} {source : Text} {i j : Nat} :
    (i, j) ∈ profile.reported source ↔ profile.Reports source i j := by
  simp only [reported, Reports, List.mem_flatMap, Prod.exists, List.mem_map,
    List.mk_mem_zipIdx_iff_le_and_getElem?_sub, mem_hits, breaks_iff]
  constructor
  · rintro ⟨line, number, ⟨hn, hl⟩, j, ⟨rule, k, ⟨hr, hb⟩, rfl⟩, he⟩
    cases he
    exact ⟨line, rule, hn, hl, hr, hb⟩
  · rintro ⟨line, rule, hn, hl, hr, hb⟩
    exact ⟨line, i, ⟨hn, hl⟩, j, ⟨rule, j, ⟨hr, hb⟩, rfl⟩, rfl⟩

theorem pairwise_reported (profile : Profile) (source : Text) :
    (profile.reported source).Pairwise (Prod.Lex (· < ·) (· < ·)) := by
  rw [reported, List.pairwise_flatMap]
  constructor
  · rintro ⟨line, number⟩ -
    rw [List.pairwise_map]
    exact (pairwise_hits _ _).imp fun h => Prod.Lex.right _ h
  · have hn : (((Text.linePieces source).zipIdx 1).map Prod.snd).Pairwise (· < ·) := by
      rw [List.zipIdx_map_snd]
      exact List.pairwise_lt_range' 1
    refine (List.pairwise_map.mp hn).imp fun {x y} hxy a ha b hb => ?_
    obtain ⟨j, -, rfl⟩ := List.mem_map.mp ha
    obtain ⟨k, -, rfl⟩ := List.mem_map.mp hb
    exact Prod.Lex.left _ _ hxy

/-- The findings are one for each line and rule with something to report, in the order of lines and
then of rules, and after them one for each rule whose two characters occur unequally often. -/
theorem findings_exact (profile : Profile) (source : Text) :
    ∃ (places : List (Nat × Nat)) (uneven : List Nat) (onLines onSource : List Finding),
      profile.findings source = onLines ++ onSource ∧
      places.Pairwise (Prod.Lex (· < ·) (· < ·)) ∧
      (∀ i j, (i, j) ∈ places ↔ profile.Reports source i j) ∧
      List.Forall₂ (fun place f => ∃ rule, profile.lineRules[place.2]? = some rule ∧
        f = ⟨place.1, rule.message, rule.severity⟩) places onLines ∧
      uneven.Pairwise (· < ·) ∧
      (∀ j, j ∈ uneven ↔ ∃ rule, profile.balanceRules[j]? = some rule ∧
        source.count rule.opening ≠ source.count rule.closing) ∧
      List.Forall₂ (fun j f => ∃ rule, profile.balanceRules[j]? = some rule ∧
        f = ⟨1, Text.fill [("\x7bopen\x7d".toList, Text.ofNat (source.count rule.opening)),
          ("\x7bclose\x7d".toList, Text.ofNat (source.count rule.closing))] rule.message,
          rule.severity⟩) uneven onSource := by
  refine ⟨profile.reported source, (hits (unbalanced source) profile.balanceRules).map Prod.snd, _, _,
    rfl, pairwise_reported profile source, fun _ _ => mem_reported, ?_, pairwise_hits _ _,
    fun j => ?_, ?_⟩
  · rw [lineFindings_eq_hits, reported]
    refine forall₂_flatMap fun line _ => ?_
    rw [List.forall₂_map_left_iff]
    exact forall₂_hits (f := fun rule => LineRule.finding rule line.2) fun rule j hj _ =>
      ⟨rule, hj, rfl⟩
  · simp [List.mem_map, mem_hits, unbalanced]
  · rw [balanceFindings_eq_hits]
    exact forall₂_hits fun rule j hj _ => ⟨rule, hj, rfl⟩

end Profile

end SnippetReview
