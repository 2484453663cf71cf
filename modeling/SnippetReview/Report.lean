import SnippetReview.Finding

namespace SnippetReview

structure Report where
  hasErrors : Bool
  errorCount : Nat
  warningCount : Nat
  findings : List Finding
  corrected : Text
  explanation : Text
  deriving DecidableEq, Repr

def countOf (severity : Severity) (findings : List Finding) : Nat :=
  findings.countP fun f => f.severity = severity

def explain (errors warnings : Nat) : Text :=
  if 0 < errors then
    "Found ".toList ++ Text.ofNat errors ++ " error(s) and ".toList ++ Text.ofNat warnings ++
      " warning(s) in your code.".toList
  else if 0 < warnings then
    "No critical errors, but found ".toList ++ Text.ofNat warnings ++ " warning(s).".toList
  else "Your code looks good! No errors detected.".toList

namespace Report

def ofFindings (findings : List Finding) (corrected : Text) : Report :=
  let errors := countOf .error findings
  let warnings := countOf .warning findings
  { hasErrors := 0 < errors
    errorCount := errors
    warningCount := warnings
    findings := findings
    corrected := corrected
    explanation := explain errors warnings }

def degraded : Report :=
  { hasErrors := true
    errorCount := 1
    warningCount := 0
    findings := [⟨1, "Error analyzing code".toList, .error⟩]
    corrected := []
    explanation := "Failed to analyze code.".toList }

def isConsistent (r : Report) : Bool :=
  r.errorCount == countOf .error r.findings && r.warningCount == countOf .warning r.findings &&
    r.hasErrors == decide (0 < r.errorCount) && r.findings.all fun f => 1 ≤ f.line

def settle (outcome : Option Report) : Report :=
  outcome.getD degraded

end Report

end SnippetReview
