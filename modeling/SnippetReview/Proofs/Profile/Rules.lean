import SnippetReview.Proofs.Profile.Findings

namespace SnippetReview

-- A profile keeps its rules in two lists. Here they are in one, in any order, and each looks at the
-- lines or at the source as its kind is.
inductive Rule where
  | ofLine (rule : LineRule)
  | ofBalance (rule : BalanceRule)

namespace Rule

def line? : Rule → Option LineRule
  | ofLine rule => some rule
  | ofBalance _ => none

def balance? : Rule → Option BalanceRule
  | ofLine _ => none
  | ofBalance rule => some rule

def onLine (number : Nat) (line source : Text) : Rule → Option Finding
  | ofLine rule => rule.check number (Text.trim line) source
  | ofBalance _ => none

def onSource (source : Text) : Rule → Option Finding
  | ofLine _ => none
  | ofBalance rule => rule.check source

def run (rules : List Rule) (source : Text) : List Finding :=
  ((Text.lines source).zipIdx 1).flatMap (fun (line, number) =>
    rules.filterMap (onLine number line source)) ++ rules.filterMap (onSource source)

theorem filterMap_onLine (rules : List Rule) (number : Nat) (line source : Text) :
    rules.filterMap (onLine number line source) =
      (rules.filterMap line?).filterMap fun rule => rule.check number (Text.trim line) source := by
  rw [List.filterMap_filterMap]
  congr 1
  funext rule
  cases rule <;> rfl

theorem filterMap_onSource (rules : List Rule) (source : Text) :
    rules.filterMap (onSource source) =
      (rules.filterMap balance?).filterMap fun rule => rule.check source := by
  rw [List.filterMap_filterMap]
  congr 1
  funext rule
  cases rule <;> rfl

end Rule

namespace LineRule

theorem check_eq_some_iff {rule : LineRule} {number : Nat} {line source : Text} {f : Finding} :
    rule.check number line source = some f ↔
      rule.pattern.occursIn line = true ∧ (∀ r, rule.exempt = some r → r.occursIn line = false) ∧
      (∀ r, rule.exemptSource = some r → r.occursIn source = false) ∧
      f = ⟨number, rule.message, rule.severity⟩ := by
  rw [check, Option.ite_none_right_eq_some, Option.some.injEq, finding, @eq_comm _ _ f]
  simp [flags, silencedBy, Option.any_eq_false, and_assoc]

end LineRule

namespace Profile

def rules (profile : Profile) : List Rule :=
  profile.lineRules.map .ofLine ++ profile.balanceRules.map .ofBalance

theorem lineFindings_eq_findingsOn (profile : Profile) (source : Text) :
    profile.lineFindings source =
      ((Text.lines source).zipIdx 1).flatMap fun (line, number) =>
        profile.findingsOn number line source := by
  rw [lineFindings]
  congr 1
  funext ⟨line, number⟩
  simp only [activeRules, findingsOn, List.filterMap_filter]
  congr 1
  funext rule
  cases hs : rule.silencedBy source <;> simp [LineRule.check, hs]

theorem run_eq_findings {profile : Profile} {rules : List Rule}
    (hl : rules.filterMap Rule.line? = profile.lineRules)
    (hs : rules.filterMap Rule.balance? = profile.balanceRules) (source : Text) :
    Rule.run rules source = profile.findings source := by
  simp only [Rule.run, Rule.filterMap_onLine, Rule.filterMap_onSource, hl, hs, findings,
    lineFindings_eq_findingsOn, findingsOn, balanceFindings]

theorem run_rules (profile : Profile) (source : Text) :
    Rule.run profile.rules source = profile.findings source := by
  apply run_eq_findings
  · simp [rules, List.filterMap_append, List.filterMap_map, Function.comp_def, Rule.line?]
  · simp [rules, List.filterMap_append, List.filterMap_map, Function.comp_def, Rule.balance?]

end Profile

end SnippetReview
