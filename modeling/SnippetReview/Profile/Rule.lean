import SnippetReview.Pattern.Search
import SnippetReview.Report

/-!
The rules of a language: conditions on single lines, balance of two characters over a snippet, and
replacements. Findings on lines come first, in the order of lines and then of rules.
-/

namespace SnippetReview

open Pattern

structure LineRule where
  name : Text
  severity : Severity
  message : Text
  pattern : Regex
  exempt : Option Regex
  /-- A snippet that this matches has no reports by the rule. -/
  exemptSource : Option Regex

namespace LineRule

def flags (rule : LineRule) (line : Text) : Bool :=
  rule.pattern.occursIn line && !rule.exempt.any fun r => r.occursIn line

def silencedBy (rule : LineRule) (source : Text) : Bool :=
  rule.exemptSource.any fun r => r.occursIn source

def finding (rule : LineRule) (number : Nat) : Finding :=
  ⟨number, rule.message, rule.severity⟩

def check (rule : LineRule) (number : Nat) (line source : Text) : Option Finding :=
  if rule.flags line && !rule.silencedBy source then some (rule.finding number) else none

end LineRule

structure BalanceRule where
  name : Text
  severity : Severity
  message : Text
  opening : Char
  closing : Char

namespace BalanceRule

def describe (rule : BalanceRule) (openings closings : Nat) : Text :=
  Text.substitute "\x7bclose\x7d".toList (Text.ofNat closings)
    (Text.substitute "\x7bopen\x7d".toList (Text.ofNat openings) rule.message)

def check (rule : BalanceRule) (source : Text) : Option Finding :=
  let openings := source.count rule.opening
  let closings := source.count rule.closing
  if openings = closings then none
  else some ⟨1, rule.describe openings closings, rule.severity⟩

end BalanceRule

structure Correction where
  pattern : Regex
  replacement : Text
  deriving DecidableEq

def Correction.apply (correction : Correction) (text : Text) : Text :=
  correction.pattern.replaceAll correction.replacement text

structure Profile where
  id : Text
  description : Option Text
  lineRules : List LineRule
  balanceRules : List BalanceRule
  corrections : List Correction

namespace Profile

def findingsOn (profile : Profile) (number : Nat) (line source : Text) : List Finding :=
  profile.lineRules.filterMap fun rule => rule.check number (Text.trim line) source

def activeRules (profile : Profile) (source : Text) : List LineRule :=
  profile.lineRules.filter fun rule => !rule.silencedBy source

def lineFindings (profile : Profile) (source : Text) : List Finding :=
  let active := profile.activeRules source
  ((Text.lines source).zipIdx 1).flatMap fun (line, number) =>
    let line := Text.trim line
    active.filterMap fun rule => if rule.flags line then some (rule.finding number) else none

def balanceFindings (profile : Profile) (source : Text) : List Finding :=
  profile.balanceRules.filterMap fun rule => rule.check source

def findings (profile : Profile) (source : Text) : List Finding :=
  profile.lineFindings source ++ profile.balanceFindings source

def correct (profile : Profile) (source : Text) : Text :=
  profile.corrections.foldl (fun text correction => correction.apply text) source

def review (profile : Profile) (code : Text) : Report :=
  Report.ofFindings (profile.findings code) (profile.correct code)

end Profile

end SnippetReview
