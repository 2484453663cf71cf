import Mathlib.Data.List.Forall2
import SnippetReview.Profile.Table

namespace SnippetReview

open Pattern

theorem bind_eq_ok_iff {ε α β : Type} {x : Except ε α} {f : α → Except ε β} {b : β} :
    x >>= f = .ok b ↔ ∃ a, x = .ok a ∧ f a = .ok b := by
  constructor
  · intro h
    cases x with
    | error e => cases h
    | ok a => exact ⟨a, rfl, h⟩
  · rintro ⟨a, rfl, h⟩
    exact h

theorem mapM_eq_ok_iff {ε α β : Type} {f : α → Except ε β} {l : List α} {found : List β} :
    l.mapM f = .ok found ↔ List.Forall₂ (fun x y => f x = .ok y) l found := by
  induction l generalizing found with
  | nil =>
    rw [List.forall₂_nil_left_iff, List.mapM_nil]
    exact ⟨fun h => (Except.ok.inj h).symm, fun h => h ▸ rfl⟩
  | cons x l ih =>
    rw [List.mapM_cons, List.forall₂_cons_left_iff, bind_eq_ok_iff]
    simp only [bind_eq_ok_iff, ih]
    constructor
    · rintro ⟨y, hy, rest, hrest, h⟩
      exact ⟨y, rest, hy, hrest, (Except.ok.inj h).symm⟩
    · rintro ⟨y, rest, hy, hrest, rfl⟩
      exact ⟨y, hy, rest, hrest, rfl⟩

theorem exists_of_mem_of_mapM {ε α β : Type} {f : α → Except ε β} {l : List α} {found : List β}
    (h : l.mapM f = .ok found) {y : β} (hy : y ∈ found) : ∃ x ∈ l, f x = .ok y := by
  induction mapM_eq_ok_iff.mp h with
  | nil => cases hy
  | @cons x y' l found hx hrest ih =>
    rcases List.mem_cons.mp hy with rfl | hy
    · exact ⟨x, List.mem_cons_self, hx⟩
    · obtain ⟨x', hm, hx'⟩ := ih (mapM_eq_ok_iff.mpr hrest) hy
      exact ⟨x', List.mem_cons_of_mem _ hm, hx'⟩

theorem BalanceTable.compile_eq_ok_iff {profile : Text} {t : BalanceTable} {rule : BalanceRule} :
    t.compile profile = .ok rule ↔
      t = ⟨rule.name, rule.severity, rule.message, [rule.opening], [rule.closing]⟩ := by
  obtain ⟨name, severity, message, opening, closing⟩ := t
  constructor
  · intro h
    rw [compile] at h
    split at h
    · rename_i ho hc
      obtain rfl : opening = _ := ho
      obtain rfl : closing = _ := hc
      cases h
      rfl
    · cases h
  · intro h
    cases h
    rfl

theorem CorrectionTable.compile_eq_ok_iff {profile : Text} {t : CorrectionTable} {c : Correction} :
    t.compile profile = .ok c ↔ compilePattern profile "rewrite".toList t.pattern = .ok c.pattern ∧
      c.replacement = t.replacement ∧ c.pattern.occursIn c.replacement = false := by
  rw [compile, bind_eq_ok_iff]
  constructor
  · rintro ⟨pattern, hp, h⟩
    split at h
    · cases h
    · rename_i ho
      cases h
      exact ⟨hp, rfl, by simpa using ho⟩
  · rintro ⟨hp, hr, ho⟩
    refine ⟨c.pattern, hp, ?_⟩
    rw [← hr, ho]
    rfl

theorem ProfileTable.compile_eq_ok_iff {t : ProfileTable} {p : Profile} :
    t.compile = .ok p ↔ p.id = t.id ∧ p.description = t.description ∧
      t.lineRules.mapM (fun rule => rule.compile t.id) = .ok p.lineRules ∧
      t.balanceRules.mapM (fun rule => rule.compile t.id) = .ok p.balanceRules ∧
      t.corrections.mapM (fun rule => rule.compile t.id) = .ok p.corrections := by
  simp only [compile, bind_eq_ok_iff]
  constructor
  · rintro ⟨lineRules, hl, balanceRules, hb, corrections, hc, h⟩
    cases h
    exact ⟨rfl, rfl, hl, hb, hc⟩
  · obtain ⟨id, description, lineRules, balanceRules, corrections⟩ := p
    rintro ⟨hid, hd, hl, hb, hc⟩
    obtain rfl : id = t.id := hid
    obtain rfl : description = t.description := hd
    exact ⟨lineRules, hl, balanceRules, hb, corrections, hc, rfl⟩

theorem ProfileTable.exists_balanceTable {t : ProfileTable} {p : Profile} (h : t.compile = .ok p)
    {rule : BalanceRule} (hr : rule ∈ p.balanceRules) :
    ∃ u ∈ t.balanceRules, u.opening = [rule.opening] ∧ u.closing = [rule.closing] := by
  obtain ⟨-, -, -, hm, -⟩ := compile_eq_ok_iff.mp h
  obtain ⟨u, hu, hc⟩ := exists_of_mem_of_mapM hm hr
  rw [BalanceTable.compile_eq_ok_iff] at hc
  exact ⟨u, hu, by rw [hc], by rw [hc]⟩

theorem ProfileTable.occursIn_replacement {t : ProfileTable} {p : Profile} (h : t.compile = .ok p)
    {c : Correction} (hc : c ∈ p.corrections) : c.pattern.occursIn c.replacement = false := by
  obtain ⟨-, -, -, -, hm⟩ := compile_eq_ok_iff.mp h
  obtain ⟨u, -, hu⟩ := exists_of_mem_of_mapM hm hc
  exact (CorrectionTable.compile_eq_ok_iff.mp hu).2.2

theorem compilePattern_eq_ok_iff {profile rule text : Text} {r : Regex} :
    compilePattern profile rule text = .ok r ↔ Regex.read text = .ok r := by
  rw [compilePattern]
  cases Regex.read text <;> simp [Except.mapError]

theorem compilePattern?_eq_ok_iff {profile rule : Text} {text : Option Text} {r : Option Regex} :
    compilePattern? profile rule text = .ok r ↔
      Option.Rel (fun text r => Regex.read text = .ok r) text r := by
  cases text with
  | none =>
    rw [compilePattern?]
    constructor
    · intro h
      cases h
      exact .none
    · intro h
      cases h
      rfl
  | some text =>
    rw [compilePattern?, bind_eq_ok_iff]
    constructor
    · rintro ⟨found, hf, h⟩
      cases h
      exact .some (compilePattern_eq_ok_iff.mp hf)
    · intro h
      cases h with
      | some hr => exact ⟨_, compilePattern_eq_ok_iff.mpr hr, rfl⟩

structure LineRuleTable.CompilesTo (t : LineRuleTable) (rule : LineRule) : Prop where
  name : rule.name = t.name
  severity : rule.severity = t.severity
  message : rule.message = t.message
  pattern : Regex.read t.pattern = .ok rule.pattern
  exempt : Option.Rel (fun text r => Regex.read text = .ok r) t.exempt rule.exempt
  exemptSource : Option.Rel (fun text r => Regex.read text = .ok r) t.exemptSource rule.exemptSource

structure BalanceTable.CompilesTo (t : BalanceTable) (rule : BalanceRule) : Prop where
  name : rule.name = t.name
  severity : rule.severity = t.severity
  message : rule.message = t.message
  opening : t.opening = [rule.opening]
  closing : t.closing = [rule.closing]

structure CorrectionTable.CompilesTo (t : CorrectionTable) (c : Correction) : Prop where
  pattern : Regex.read t.pattern = .ok c.pattern
  replacement : c.replacement = t.replacement
  differs : c.pattern.occursIn c.replacement = false

structure ProfileTable.CompilesTo (t : ProfileTable) (p : Profile) : Prop where
  id : p.id = t.id
  description : p.description = t.description
  lineRules : List.Forall₂ LineRuleTable.CompilesTo t.lineRules p.lineRules
  balanceRules : List.Forall₂ BalanceTable.CompilesTo t.balanceRules p.balanceRules
  corrections : List.Forall₂ CorrectionTable.CompilesTo t.corrections p.corrections

theorem LineRuleTable.compilesTo_iff {profile : Text} {t : LineRuleTable} {rule : LineRule} :
    t.compile profile = .ok rule ↔ t.CompilesTo rule := by
  simp only [compile, bind_eq_ok_iff, compilePattern_eq_ok_iff, compilePattern?_eq_ok_iff]
  constructor
  · rintro ⟨pattern, hp, exempt, he, exemptSource, hs, h⟩
    cases h
    exact ⟨rfl, rfl, rfl, hp, he, hs⟩
  · obtain ⟨name, severity, message, pattern, exempt, exemptSource⟩ := rule
    rintro ⟨rfl, rfl, rfl, hp, he, hs⟩
    exact ⟨pattern, hp, exempt, he, exemptSource, hs, rfl⟩

theorem BalanceTable.compilesTo_iff {profile : Text} {t : BalanceTable} {rule : BalanceRule} :
    t.compile profile = .ok rule ↔ t.CompilesTo rule := by
  rw [compile_eq_ok_iff]
  constructor
  · rintro rfl
    exact ⟨rfl, rfl, rfl, rfl, rfl⟩
  · obtain ⟨name, severity, message, opening, closing⟩ := t
    rintro ⟨rfl, rfl, rfl, ho, hc⟩
    rw [BalanceTable.mk.injEq]
    exact ⟨rfl, rfl, rfl, ho, hc⟩

theorem CorrectionTable.compilesTo_iff {profile : Text} {t : CorrectionTable} {c : Correction} :
    t.compile profile = .ok c ↔ t.CompilesTo c := by
  rw [compile_eq_ok_iff, compilePattern_eq_ok_iff]
  exact ⟨fun ⟨hp, hr, hd⟩ => ⟨hp, hr, hd⟩, fun h => ⟨h.pattern, h.replacement, h.differs⟩⟩

theorem ProfileTable.compilesTo_iff {t : ProfileTable} {p : Profile} :
    t.compile = .ok p ↔ t.CompilesTo p := by
  simp only [compile_eq_ok_iff, mapM_eq_ok_iff, LineRuleTable.compilesTo_iff,
    BalanceTable.compilesTo_iff, CorrectionTable.compilesTo_iff]
  exact ⟨fun ⟨hid, hd, hl, hb, hc⟩ => ⟨hid, hd, hl, hb, hc⟩,
    fun h => ⟨h.id, h.description, h.lineRules, h.balanceRules, h.corrections⟩⟩

end SnippetReview
