import SnippetReview.Proofs.Profile.Compile

/-!
The checks that a table has to pass, in the order in which they are made. A table that is refused is
refused with what the first check that fails reports, and one that passes all of them is compiled
rule by rule.
-/

namespace SnippetReview

open Pattern

def faultOf {ε α : Type} : Except ε α → Option ε
  | .error fault => some fault
  | .ok _ => none

def firstFault {ε : Type} (checks : List (Option ε)) : Option ε :=
  checks.findSome? id

section

variable {ε α β : Type} {x : Except ε α}

theorem faultOf_eq_some_iff {fault : ε} : faultOf x = some fault ↔ x = .error fault := by
  cases x <;> simp [faultOf]

theorem faultOf_eq_none_iff : faultOf x = none ↔ ∃ a, x = .ok a := by
  cases x <;> simp [faultOf]

theorem faultOf_bind {f : α → Except ε β} {later : Option ε}
    (h : ∀ a, x = .ok a → faultOf (f a) = later) : faultOf (x >>= f) = (faultOf x).or later := by
  cases x with
  | error fault => rfl
  | ok a => exact h a rfl

theorem faultOf_bind_pure (x : Except ε α) (f : α → β) :
    faultOf (x >>= fun a => pure (f a)) = faultOf x := by
  cases x <;> rfl

theorem faultOf_mapM (f : α → Except ε β) (l : List α) :
    faultOf (l.mapM f) = l.findSome? fun x => faultOf (f x) := by
  induction l with
  | nil => rfl
  | cons x l ih =>
    have hrest (y : β) : faultOf (l.mapM f >>= fun found => pure (y :: found)) =
        l.findSome? fun x => faultOf (f x) :=
      (faultOf_bind_pure _ _).trans ih
    rw [List.mapM_cons, faultOf_bind fun y _ => hrest y, List.findSome?_cons]
    cases faultOf (f x) <;> rfl

theorem firstFault_append (checks later : List (Option ε)) :
    firstFault (checks ++ later) = (firstFault checks).or (firstFault later) :=
  List.findSome?_append

theorem firstFault_cons (check : Option ε) (checks : List (Option ε)) :
    firstFault (check :: checks) = check.or (firstFault checks) := by
  cases check <;> rfl

theorem firstFault_flatMap (f : α → List (Option ε)) (l : List α) :
    firstFault (l.flatMap f) = l.findSome? fun x => firstFault (f x) := by
  induction l with
  | nil => rfl
  | cons x l ih =>
    rw [List.flatMap_cons, firstFault_append, ih, List.findSome?_cons]
    cases firstFault (f x) <;> rfl

theorem firstFault_map (f : α → Option ε) (l : List α) :
    firstFault (l.map f) = l.findSome? f :=
  List.findSome?_map

end

def patternCheck (profile rule text : Text) : Option ProfileError :=
  match Regex.read text with
  | .ok _ => none
  | .error fault => some (.pattern profile rule fault)

def LineRuleTable.checks (profile : Text) (t : LineRuleTable) : List (Option ProfileError) :=
  ([some t.pattern, t.exempt, t.exemptSource].filterMap id).map (patternCheck profile t.name)

def BalanceTable.check (profile : Text) (t : BalanceTable) : Option ProfileError :=
  if t.opening.length = 1 ∧ t.closing.length = 1 then none else some (.delimiter profile t.name)

def CorrectionTable.selfCheck (profile : Text) (t : CorrectionTable) : Option ProfileError :=
  match Regex.read t.pattern with
  | .ok pattern =>
    if pattern.occursIn t.replacement then some (.selfMatching profile t.replacement) else none
  | .error _ => none

def CorrectionTable.checks (profile : Text) (t : CorrectionTable) : List (Option ProfileError) :=
  [patternCheck profile "rewrite".toList t.pattern, t.selfCheck profile]

def ProfileTable.checks (t : ProfileTable) : List (Option ProfileError) :=
  t.lineRules.flatMap (LineRuleTable.checks t.id) ++
    (t.balanceRules.map (BalanceTable.check t.id) ++
      t.corrections.flatMap (CorrectionTable.checks t.id))

theorem faultOf_compilePattern (profile rule text : Text) :
    faultOf (compilePattern profile rule text) = patternCheck profile rule text := by
  rw [compilePattern, patternCheck]
  cases Regex.read text <;> rfl

theorem faultOf_compilePattern? (profile rule : Text) (text : Option Text) :
    faultOf (compilePattern? profile rule text) =
      firstFault (text.toList.map (patternCheck profile rule)) := by
  cases text with
  | none => rfl
  | some text =>
    rw [compilePattern?, faultOf_bind_pure, faultOf_compilePattern, Option.toList_some,
      List.map_singleton, firstFault_cons]
    exact Option.or_none.symm

theorem LineRuleTable.faultOf_compile (profile : Text) (t : LineRuleTable) :
    faultOf (t.compile profile) = firstFault (t.checks profile) := by
  have hchecks : t.checks profile = patternCheck profile t.name t.pattern ::
      (t.exempt.toList.map (patternCheck profile t.name) ++
        t.exemptSource.toList.map (patternCheck profile t.name)) := by
    rw [checks]
    cases t.exempt <;> cases t.exemptSource <;> rfl
  have hsource (pattern : Regex) (exempt : Option Regex) := faultOf_bind_pure
    (compilePattern? profile t.name t.exemptSource) fun exemptSource =>
      (⟨t.name, t.severity, t.message, pattern, exempt, exemptSource⟩ : LineRule)
  rw [hchecks, firstFault_cons, firstFault_append, compile,
    faultOf_bind fun pattern _ => faultOf_bind fun exempt _ => hsource pattern exempt,
    faultOf_compilePattern, faultOf_compilePattern?, faultOf_compilePattern?]

theorem BalanceTable.faultOf_compile (profile : Text) (t : BalanceTable) :
    faultOf (t.compile profile) = t.check profile := by
  obtain ⟨name, severity, message, opening, closing⟩ := t
  rw [compile, check]
  split
  · rename_i ho hc
    obtain rfl : opening = _ := ho
    obtain rfl : closing = _ := hc
    rfl
  · rename_i hn
    rw [if_neg]
    · rfl
    · rintro ⟨ho, hc⟩
      obtain ⟨o, rfl⟩ := List.length_eq_one_iff.mp ho
      obtain ⟨c, rfl⟩ := List.length_eq_one_iff.mp hc
      exact hn o c rfl rfl

theorem CorrectionTable.faultOf_compile (profile : Text) (t : CorrectionTable) :
    faultOf (t.compile profile) = firstFault (t.checks profile) := by
  have hself (pattern : Regex)
      (hp : compilePattern profile "rewrite".toList t.pattern = .ok pattern) :
      faultOf (do
        if pattern.occursIn t.replacement then throw (.selfMatching profile t.replacement)
        return (⟨pattern, t.replacement⟩ : Correction)) = t.selfCheck profile := by
    rw [selfCheck, compilePattern_eq_ok_iff.mp hp]
    cases hm : pattern.occursIn t.replacement <;> simp [hm] <;> rfl
  rw [compile, faultOf_bind hself, faultOf_compilePattern, checks, firstFault_cons,
    firstFault_cons]
  exact congrArg _ Option.or_none.symm

theorem ProfileTable.faultOf_compile (t : ProfileTable) :
    faultOf t.compile = firstFault t.checks := by
  have hcorrections (lineRules : List LineRule) (balanceRules : List BalanceRule) :=
    faultOf_bind_pure (t.corrections.mapM fun rule => rule.compile t.id) fun corrections =>
      (⟨t.id, t.description, lineRules, balanceRules, corrections⟩ : Profile)
  rw [compile, faultOf_bind fun lineRules _ => faultOf_bind fun balanceRules _ =>
    hcorrections lineRules balanceRules]
  simp only [checks, firstFault_append, firstFault_flatMap, firstFault_map, faultOf_mapM,
    LineRuleTable.faultOf_compile, BalanceTable.faultOf_compile, CorrectionTable.faultOf_compile]

end SnippetReview
