import SnippetReview.Json.Reader
import SnippetReview.Report

namespace SnippetReview

open Json

namespace Severity

def toJson (s : Severity) : Json :=
  ofText s.name

def ofJson? : Json → Option Severity
  | .string written => (Quoted.decode written).bind ofName?
  | .object [(key, .null)] => (Quoted.decode key).bind ofName?
  | _ => none

end Severity

namespace Finding

def toJson (f : Finding) : Json :=
  ofMembers [
    ("line", ofNat f.line),
    ("message", ofText f.message),
    ("severity", f.severity.toJson)]

def ofJson? (value : Json) : Option Finding := do
  match ← value.fields? ["line", "message", "severity"] with
  | [some line, some message, some severity] =>
    return ⟨← line.natural?, ← message.text?, ← Severity.ofJson? severity⟩
  | _ => none

end Finding

namespace Report

def toJson (r : Report) : Json :=
  ofMembers [
    ("hasErrors", .bool r.hasErrors),
    ("errorCount", ofNat r.errorCount),
    ("warningCount", ofNat r.warningCount),
    ("errors", .array (r.findings.map Finding.toJson)),
    ("correctedCode", ofText r.corrected),
    ("explanation", ofText r.explanation)]

def fieldNames : List String :=
  ["hasErrors", "errorCount", "warningCount", "errors", "correctedCode", "explanation"]

def ofJson? (value : Json) : Option Report := do
  match ← value.fields? fieldNames with
  | [some hasErrors, some errors, some warnings, some findings, some corrected, some explanation] =>
    return ⟨← hasErrors.bool?, ← errors.natural?, ← warnings.natural?,
      ← (← findings.items?).mapM Finding.ofJson?, ← corrected.text?, ← explanation.text?⟩
  | _ => none

end Report

end SnippetReview
