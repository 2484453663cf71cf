import SnippetReview.Editor.Shape

namespace SnippetReview.Editor.Shape

def flags (names : List String) : List (String × Bool × Shape) :=
  names.map fun name => may name flag

def feature (fields : List (String × Bool × Shape)) : Shape :=
  closed (may "dynamicRegistration" flag :: fields)

def refreshed : Shape :=
  closed (flags ["refreshSupport"])

def properties : Shape :=
  closed [need "properties" (list text)]

def kinds (kind : Shape) : Shape :=
  closed [may "valueSet" (list kind)]

-- Some editors say no more than whether they have tags.
def tags : Shape :=
  either flag (closed [need "valueSet" (list int)])

def markup : Shape :=
  list (oneOf ["plaintext", "markdown"])

def workspace : Shape :=
  closed [
    may "applyEdit" flag,
    may "workspaceEdit" (closed [
      may "documentChanges" flag,
      may "resourceOperations" (list (oneOf ["create", "rename", "delete"])),
      may "failureHandling" (oneOf ["abort", "transactional", "textOnlyTransactional", "undo"]),
      may "normalizesLineEndings" flag,
      may "changeAnnotationSupport" (closed (flags ["groupsOnLabel"]))]),
    may "didChangeConfiguration" (feature []),
    may "didChangeWatchedFiles" (feature (flags ["relativePatternSupport"])),
    may "symbol" (feature [may "symbolKind" (kinds int), may "tagSupport" tags,
      may "resolveSupport" properties]),
    may "executeCommand" (feature []),
    may "workspaceFolders" flag,
    may "configuration" flag,
    may "semanticTokens" refreshed,
    may "codeLens" refreshed,
    may "fileOperations" (feature (flags ["didCreate", "willCreate", "didRename", "willRename",
      "didDelete", "willDelete"])),
    may "inlineValue" refreshed,
    may "inlayHint" refreshed,
    may "diagnostic" refreshed]

def completion : Shape :=
  feature [
    may "completionItem" (closed [
      may "snippetSupport" flag,
      may "commitCharactersSupport" flag,
      may "documentationFormat" markup,
      may "deprecatedSupport" flag,
      may "preselectSupport" flag,
      may "tagSupport" tags,
      may "insertReplaceSupport" flag,
      may "resolveSupport" properties,
      may "insertTextModeSupport" (closed [need "valueSet" (list int)]),
      may "labelDetailsSupport" flag]),
    may "completionItemKind" (kinds int),
    may "contextSupport" flag,
    may "insertTextMode" int,
    may "completionList" (closed [may "itemDefaults" (list text)])]

def semanticTokens : Shape :=
  feature ([
    need "requests" (closed [
      may "range" flag,
      may "full" (either flag (closed (flags ["delta"])))]),
    need "tokenTypes" (list text),
    need "tokenModifiers" (list text),
    need "formats" (list text)] ++
    flags ["overlappingTokenSupport", "multilineTokenSupport", "serverCancelSupport",
      "augmentsSyntaxTokens"])

def textDocument : Shape :=
  let linked := feature (flags ["linkSupport"])
  closed [
    may "synchronization" (feature (flags ["willSave", "willSaveWaitUntil", "didSave"])),
    may "completion" completion,
    may "hover" (feature [may "contentFormat" markup]),
    may "signatureHelp" (feature [
      may "signatureInformation" (closed [
        may "documentationFormat" markup,
        may "parameterInformation" (closed (flags ["labelOffsetSupport"])),
        may "activeParameterSupport" flag]),
      may "contextSupport" flag]),
    may "references" (feature []),
    may "documentHighlight" (feature []),
    may "documentSymbol" (feature [may "symbolKind" (kinds int),
      may "hierarchicalDocumentSymbolSupport" flag, may "tagSupport" tags]),
    may "formatting" (feature []),
    may "rangeFormatting" (feature []),
    may "onTypeFormatting" (feature []),
    may "declaration" linked,
    may "definition" linked,
    may "typeDefinition" linked,
    may "implementation" linked,
    may "codeAction" (feature [
      may "codeActionLiteralSupport"
        (closed [need "codeActionKind" (closed [need "valueSet" (list text)])]),
      may "isPreferredSupport" flag,
      may "disabledSupport" flag,
      may "dataSupport" flag,
      may "resolveSupport" properties,
      may "honorsChangeAnnotations" flag]),
    may "codeLens" (feature []),
    may "documentLink" (feature (flags ["tooltipSupport"])),
    may "colorProvider" (feature []),
    may "rename" (feature [may "prepareSupport" flag, may "prepareSupportDefaultBehavior" int,
      may "honorsChangeAnnotations" flag]),
    may "publishDiagnostics" (closed [may "relatedInformation" flag, may "tagSupport" tags,
      may "versionSupport" flag, may "codeDescriptionSupport" flag, may "dataSupport" flag]),
    may "foldingRange" (feature [may "rangeLimit" word, may "lineFoldingOnly" flag,
      may "foldingRangeKind" (kinds (oneOf ["comment", "imports", "region"])),
      may "foldingRange" (closed (flags ["collapsedText"]))]),
    may "selectionRange" (feature []),
    may "linkedEditingRange" (feature []),
    may "callHierarchy" (feature []),
    may "semanticTokens" semanticTokens,
    may "moniker" (feature []),
    may "typeHierarchy" (feature []),
    may "inlineValue" (feature []),
    may "inlayHint" (feature [may "resolveSupport" properties]),
    may "diagnostic" (feature (flags ["relatedDocumentSupport"]))]

def window : Shape :=
  closed [
    may "workDoneProgress" flag,
    may "showMessage" (closed [
      may "messageActionItem" (closed (flags ["additionalPropertiesSupport"]))]),
    may "showDocument" (closed [need "support" flag])]

def general : Shape :=
  closed [
    may "regularExpressions" (closed [need "engine" text, may "version" text]),
    may "markdown" (closed [need "parser" text, may "version" text,
      may "allowedTags" (list text)]),
    may "staleRequestSupport"
      (closed [need "cancel" flag, need "retryOnContentModified" (list text)]),
    may "positionEncodings" (list text)]

def capabilities : Shape :=
  closed [
    may "workspace" workspace,
    may "textDocument" textDocument,
    may "notebookDocument"
      (closed [need "synchronization" (feature (flags ["executionSummaryReport"]))]),
    may "window" window,
    may "general" general,
    may "experimental" any]

end SnippetReview.Editor.Shape
