import SnippetReview.Editor.Capabilities
import SnippetReview.Editor.Document
import SnippetReview.Editor.Method

namespace SnippetReview.Editor

open Json

structure OpenParams where
  uri : Text
  language : Text
  content : Text

structure ChangeParams where
  uri : Text
  texts : List Text

structure ActionParams where
  uri : Text
  diagnostics : List Diagnostic

def OpenParams.ofJson? (value : Json) : Option OpenParams := do
  match ← value.fields? ["textDocument"] with
  | [some document] =>
    match ← document.fields? ["uri", "languageId", "version", "text"] with
    | [some uri, some language, some version, some content] =>
      let _ ← int32? version
      return ⟨← uri? uri, ← language.text?, ← content.text?⟩
    | _ => none
  | _ => none

def changeText? (value : Json) : Option Text := do
  match ← value.fields? ["range", "rangeLength", "text"] with
  | [range, length, some content] =>
    let _ ← optional? Range.ofJson? range
    let _ ← optional? Position.word? length
    content.text?
  | _ => none

def ChangeParams.ofJson? (value : Json) : Option ChangeParams := do
  match ← value.fields? ["textDocument", "contentChanges"] with
  | [some document, some changes] =>
    match ← document.fields? ["uri", "version"] with
    | [some uri, some version] =>
      let _ ← int32? version
      return ⟨← uri? uri, ← listOf? changeText? changes⟩
    | _ => none
  | _ => none

def documentUri? (value : Json) : Option Text := do
  match ← value.fields? ["uri"] with
  | [some uri] => uri? uri
  | _ => none

def closeUri? (value : Json) : Option Text := do
  match ← value.fields? ["textDocument"] with
  | [some document] => documentUri? document
  | _ => none

def context? (value : Json) : Option (List Diagnostic) := do
  match ← value.fields? ["diagnostics", "only", "triggerKind"] with
  | [some diagnostics, only, trigger] =>
    let _ ← optional? (listOf? text?) only
    let _ ← optional? int32? trigger
    listOf? Diagnostic.ofJson? diagnostics
  | _ => none

def ActionParams.ofJson? (value : Json) : Option ActionParams := do
  let names := ["textDocument", "range", "context", "workDoneToken", "partialResultToken"]
  match ← Shape.values? true names value with
  | [some document, some range, some context, workToken, partialToken] =>
    let _ ← Range.ofJson? range
    let _ ← optional? Label.ofJson? workToken
    let _ ← optional? Label.ofJson? partialToken
    return ⟨← documentUri? document, ← context? context⟩
  | _ => none

namespace Shape

def start : Shape :=
  closed [
    may "processId" word,
    may "rootPath" text,
    may "rootUri" uri,
    may "initializationOptions" any,
    need "capabilities" capabilities,
    may "trace" (oneOf ["off", "messages", "verbose"]),
    may "workspaceFolders" (list (closed [need "uri" uri, need "name" text])),
    may "clientInfo" (closed [need "name" text, may "version" text]),
    may "locale" text]

end Shape

end SnippetReview.Editor
