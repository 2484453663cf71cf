import SnippetReview.Editor.Shape

namespace SnippetReview.Editor

inductive Method where
  | start
  | started
  | shutdown
  | exit
  | cancel
  | didOpen
  | didChange
  | didClose
  | codeAction
  | otherRequest (params : Shape)
  /-- A notification that changes nothing. -/
  | otherNotification

namespace Method

open Shape

def own : List (String × Method) := [
  ("initialize", start),
  ("initialized", started),
  ("shutdown", shutdown),
  ("exit", exit),
  ("$/cancelRequest", cancel),
  ("textDocument/didOpen", didOpen),
  ("textDocument/didChange", didChange),
  ("textDocument/didClose", didClose),
  ("textDocument/codeAction", codeAction)]

def notifications : List String := [
  "textDocument/willSave",
  "textDocument/didSave",
  "workspace/didChangeConfiguration",
  "workspace/didChangeWorkspaceFolders",
  "workspace/didCreateFiles",
  "workspace/didRenameFiles",
  "workspace/didDeleteFiles",
  "workspace/didChangeWatchedFiles"]

def documentRequests : List (String × Shape) := [
  ("textDocument/willSaveWaitUntil", closed [document, need "reason" int]),
  ("textDocument/declaration", atPosition []),
  ("textDocument/definition", atPosition []),
  ("textDocument/typeDefinition", atPosition []),
  ("textDocument/implementation", atPosition []),
  ("textDocument/references",
    atPosition [need "context" (closed [need "includeDeclaration" flag])]),
  ("textDocument/prepareCallHierarchy", atPosition []),
  ("textDocument/prepareTypeHierarchy", atPosition []),
  ("textDocument/documentHighlight", atPosition []),
  ("textDocument/documentLink", inDocument []),
  ("textDocument/hover", atPosition []),
  ("textDocument/codeLens", inDocument []),
  ("textDocument/foldingRange", inDocument []),
  ("textDocument/selectionRange", inDocument [need "positions" (list position)]),
  ("textDocument/documentSymbol", inDocument []),
  ("textDocument/semanticTokens/full", inDocument []),
  ("textDocument/semanticTokens/full/delta", inDocument [need "previousResultId" text]),
  ("textDocument/semanticTokens/range", inDocument [need "range" range]),
  ("textDocument/inlineValue", inDocument [need "range" range,
    need "context" (closed [need "frameId" int, need "stoppedLocation" range])]),
  ("textDocument/inlayHint", inDocument [need "range" range]),
  ("textDocument/moniker", atPosition []),
  ("textDocument/completion", atPosition [
    may "context" (closed [need "triggerKind" int, may "triggerCharacter" text])]),
  ("textDocument/diagnostic", inDocument [may "identifier" text, may "previousResultId" text]),
  ("textDocument/signatureHelp", atPosition [may "context" (closed [need "triggerKind" int,
    may "triggerCharacter" text, need "isRetrigger" flag, may "activeSignatureHelp" any])]),
  ("textDocument/documentColor", inDocument []),
  ("textDocument/colorPresentation", inDocument [need "color" color, need "range" range]),
  ("textDocument/formatting", inDocument [need "options" formatting]),
  ("textDocument/rangeFormatting", inDocument [need "range" range, need "options" formatting]),
  ("textDocument/onTypeFormatting", atPosition [need "ch" text, need "options" formatting]),
  ("textDocument/rename", atPosition [need "newName" text]),
  ("textDocument/prepareRename", closed [document, need "position" position]),
  ("textDocument/linkedEditingRange", atPosition [])]

def otherRequests : List (String × Shape) := [
  ("callHierarchy/incomingCalls", request [need "item" hierarchyItem]),
  ("callHierarchy/outgoingCalls", request [need "item" hierarchyItem]),
  ("typeHierarchy/supertypes", request [need "item" hierarchyItem]),
  ("typeHierarchy/subtypes", request [need "item" hierarchyItem]),
  ("documentLink/resolve",
    closed [need "range" range, may "target" uri, may "tooltip" text, may "data" any]),
  ("codeLens/resolve", closed [need "range" range, may "command" command, may "data" any]),
  ("inlayHint/resolve", record true [need "position" position,
    need "label" (either text (list (record true [need "value" text]))), may "kind" int]),
  ("completionItem/resolve", record true [need "label" text, may "kind" int, may "detail" text,
    may "deprecated" flag, may "preselect" flag, may "sortText" text, may "filterText" text,
    may "insertText" text, may "command" command]),
  ("codeAction/resolve", record true [need "title" text, may "kind" text, may "command" command,
    may "isPreferred" flag, may "disabled" (closed [need "reason" text])]),
  ("workspace/diagnostic", request [may "identifier" text,
    need "previousResultIds" (list (closed [need "uri" uri, need "value" text]))]),
  ("workspace/symbol", request [need "query" text]),
  ("workspaceSymbol/resolve", record true [need "name" text, need "kind" int,
    need "location" (either location (closed [need "uri" uri]))]),
  ("workspace/willCreateFiles", files ["uri"]),
  ("workspace/willRenameFiles", files ["oldUri", "newUri"]),
  ("workspace/willDeleteFiles", files ["uri"]),
  ("workspace/executeCommand",
    record true [need "command" text, may "arguments" (list any), may "workDoneToken" label])]

def ofName? (name : Text) : Option Method :=
  let named {α : Type} (entry : String × α) : Bool := entry.1.toList == name
  match own.find? named with
  | some entry => some entry.2
  | none =>
    if notifications.any fun n => n.toList == name then some otherNotification
    else
      ((documentRequests ++ otherRequests).find? named).map fun entry => otherRequest entry.2

end Method

end SnippetReview.Editor
