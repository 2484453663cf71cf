import SnippetReview.Pattern.Reader
import SnippetReview.Profile.Rule
import SnippetReview.Toml.Document

namespace SnippetReview

open Pattern

structure LineRuleTable where
  name : Text
  severity : Severity
  message : Text
  pattern : Text
  exempt : Option Text := none
  exemptSource : Option Text := none
  deriving DecidableEq, Repr

structure BalanceTable where
  name : Text
  severity : Severity
  message : Text
  opening : Text
  closing : Text
  deriving DecidableEq, Repr

structure CorrectionTable where
  pattern : Text
  replacement : Text
  deriving DecidableEq, Repr

structure ProfileTable where
  id : Text
  description : Option Text := none
  lineRules : List LineRuleTable := []
  balanceRules : List BalanceTable := []
  corrections : List CorrectionTable := []
  deriving DecidableEq, Repr

inductive ProfileError where
  /-- The text is not TOML, or a field is missing or of another type. -/
  | table
  | pattern (profile rule : Text) (fault : Fault)
  | delimiter (profile rule : Text)
  /-- The pattern of a replacement matches the text that it is replaced by. -/
  | selfMatching (profile replacement : Text)
  | missingDefault (id : Text)
  deriving DecidableEq, Repr

namespace ProfileError

def message : ProfileError → Text
  | table => "failed to parse profile table".toList
  | pattern profile rule _ =>
    "profile '".toList ++ profile ++ "': invalid pattern in '".toList ++ rule ++ "'".toList
  | delimiter profile rule =>
    "profile '".toList ++ profile ++ "': rule '".toList ++ rule ++
      "' must balance single characters".toList
  | selfMatching profile replacement =>
    "profile '".toList ++ profile ++ "': rewrite replacement '".toList ++ replacement ++
      "' matches its own pattern".toList
  | missingDefault id => "default profile '".toList ++ id ++ "' is missing".toList

end ProfileError

def compilePattern (profile rule text : Text) : Except ProfileError Regex :=
  (Regex.read text).mapError fun fault => .pattern profile rule fault

def compilePattern? (profile rule : Text) : Option Text → Except ProfileError (Option Regex)
  | none => .ok none
  | some text => do return some (← compilePattern profile rule text)

def LineRuleTable.compile (profile : Text) (t : LineRuleTable) : Except ProfileError LineRule := do
  let pattern ← compilePattern profile t.name t.pattern
  let exempt ← compilePattern? profile t.name t.exempt
  let exemptSource ← compilePattern? profile t.name t.exemptSource
  return ⟨t.name, t.severity, t.message, pattern, exempt, exemptSource⟩

def BalanceTable.compile (profile : Text) (t : BalanceTable) : Except ProfileError BalanceRule :=
  match t.opening, t.closing with
  | [opening], [closing] => .ok ⟨t.name, t.severity, t.message, opening, closing⟩
  | _, _ => .error (.delimiter profile t.name)

def CorrectionTable.compile (profile : Text) (t : CorrectionTable) :
    Except ProfileError Correction := do
  let pattern ← compilePattern profile "rewrite".toList t.pattern
  if pattern.occursIn t.replacement then throw (.selfMatching profile t.replacement)
  return ⟨pattern, t.replacement⟩

/-- Compiles the line rules, then the balance rules, then the replacements, each in order. -/
def ProfileTable.compile (t : ProfileTable) : Except ProfileError Profile := do
  let lineRules ← t.lineRules.mapM fun rule => rule.compile t.id
  let balanceRules ← t.balanceRules.mapM fun rule => rule.compile t.id
  let corrections ← t.corrections.mapM fun rule => rule.compile t.id
  return ⟨t.id, t.description, lineRules, balanceRules, corrections⟩

open Toml in
def Severity.ofToml? : Value → Option Severity
  | .string name => ofName? name
  | .table _ [(name, .table _ [])] => ofName? name
  | .table _ [(name, .array _ [])] => ofName? name
  | _ => none

open Toml in
def optionalText? : Option Value → Option (Option Text)
  | none => some none
  | some value => value.text?.map some

open Toml in
def LineRuleTable.ofToml? (value : Value) : Option LineRuleTable := do
  match ← value.fields? ["name", "severity", "message", "matches", "unless", "unless_source"] 6 with
  | [some name, some severity, some message, some pattern, exempt, exemptSource] =>
    return ⟨← name.text?, ← Severity.ofToml? severity, ← message.text?, ← pattern.text?,
      ← optionalText? exempt, ← optionalText? exemptSource⟩
  | _ => none

open Toml in
def BalanceTable.ofToml? (value : Value) : Option BalanceTable := do
  match ← value.fields? ["name", "severity", "message", "open", "close"] 5 with
  | [some name, some severity, some message, some opening, some closing] =>
    return ⟨← name.text?, ← Severity.ofToml? severity, ← message.text?, ← opening.text?,
      ← closing.text?⟩
  | _ => none

open Toml in
def CorrectionTable.ofToml? (value : Value) : Option CorrectionTable := do
  match ← value.fields? ["pattern", "replacement"] 2 with
  | [some pattern, some replacement] => return ⟨← pattern.text?, ← replacement.text?⟩
  | _ => none

open Toml in
def listOf? {α : Type} (read : Value → Option α) : Option Value → Option (List α)
  | none => some []
  | some value => do (← value.items?).mapM read

open Toml in
def ProfileTable.ofToml? (value : Value) : Option ProfileTable := do
  match ← value.fields? ["profile", "line_rules", "source_rules", "rewrites"] 1 with
  | [some head, lineRules, balanceRules, corrections] =>
    match ← head.fields? ["id", "description"] 2 with
    | [some id, description] =>
      return ⟨← id.text?, ← optionalText? description, ← listOf? LineRuleTable.ofToml? lineRules,
        ← listOf? BalanceTable.ofToml? balanceRules, ← listOf? CorrectionTable.ofToml? corrections⟩
    | _ => none
  | _ => none

def ProfileTable.read (text : Text) : Except ProfileError ProfileTable :=
  match (Toml.read? text).bind ProfileTable.ofToml? with
  | some t => .ok t
  | none => .error .table

end SnippetReview
