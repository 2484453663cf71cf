import Mathlib.Data.List.Forall2
import SnippetReview.Editor.Server
import SnippetReview.Proofs.Json.Fields

namespace SnippetReview.Editor

open Json

inductive Command where
  | opened (p : OpenParams)
  | changed (p : ChangeParams)
  | closed (uri : Text)
  | asked (id : MessageId) (p : ActionParams)

inductive Message.Says (m : Message) : Command → Prop
  | opened {p : OpenParams} (hm : m.method = "textDocument/didOpen".toList) (hi : m.id = none)
      (hp : m.params.bind OpenParams.ofJson? = some p) : Says m (.opened p)
  | changed {p : ChangeParams} (hm : m.method = "textDocument/didChange".toList) (hi : m.id = none)
      (hp : m.params.bind ChangeParams.ofJson? = some p) : Says m (.changed p)
  | closed {uri : Text} (hm : m.method = "textDocument/didClose".toList) (hi : m.id = none)
      (hp : m.params.bind closeUri? = some uri) : Says m (.closed uri)
  | asked {id : MessageId} {p : ActionParams} (hm : m.method = "textDocument/codeAction".toList)
      (hi : m.id = some id) (hp : m.params.bind ActionParams.ofJson? = some p) :
      Says m (.asked id p)

structure Message.Starts (m : Message) (id : MessageId) : Prop where
  method : m.method = "initialize".toList
  id : m.id = some id
  params : Server.shaped? m Shape.start = some ()

def Message.start (id : MessageId) : Message :=
  ⟨"initialize".toList, some (ofMembers [("capabilities", .object [])]), some id⟩

theorem Message.starts_start (id : MessageId) : (start id).Starts id :=
  ⟨rfl, rfl, rfl⟩

/-! ### A message for each command -/

def uriJson (uri : Text) : Json :=
  ofMembers [("uri", ofText uri)]

def OpenParams.toJson (p : OpenParams) : Json :=
  ofMembers [("textDocument", ofMembers [("uri", ofText p.uri), ("languageId", ofText p.language),
    ("version", ofInt 1), ("text", ofText p.content)])]

def textJson (text : Text) : Json :=
  ofMembers [("text", ofText text)]

def ChangeParams.toJson (p : ChangeParams) : Json :=
  ofMembers [("textDocument", ofMembers [("uri", ofText p.uri), ("version", ofInt 2)]),
    ("contentChanges", .array (p.texts.map textJson))]

def ActionParams.toJson (p : ActionParams) : Json :=
  ofMembers [("textDocument", uriJson p.uri), ("range", (Range.full []).toJson),
    ("context", ofMembers [("diagnostics", .array (p.diagnostics.map Diagnostic.toJson))])]

namespace Command

def message : Command → Message
  | opened p => ⟨"textDocument/didOpen".toList, some p.toJson, none⟩
  | changed p => ⟨"textDocument/didChange".toList, some p.toJson, none⟩
  | closed uri =>
    ⟨"textDocument/didClose".toList, some (ofMembers [("textDocument", uriJson uri)]), none⟩
  | asked id p => ⟨"textDocument/codeAction".toList, some p.toJson, some id⟩

/-- Its address is in normal form, and a question is not about diagnostics. -/
inductive IsPlain : Command → Prop
  | opened {p : OpenParams} (h : Url.normalize? p.uri = some p.uri) : IsPlain (.opened p)
  | changed {p : ChangeParams} (h : Url.normalize? p.uri = some p.uri) : IsPlain (.changed p)
  | closed {uri : Text} (h : Url.normalize? uri = some uri) : IsPlain (.closed uri)
  | asked {id : MessageId} {uri : Text} (h : Url.normalize? uri = some uri) :
      IsPlain (.asked id ⟨uri, []⟩)

end Command

theorem uri?_ofText {uri : Text} (h : Url.normalize? uri = some uri) :
    uri? (ofText uri) = some uri := by
  rw [uri?, text?_ofText]
  exact h

theorem documentUri?_uriJson {uri : Text} (h : Url.normalize? uri = some uri) :
    documentUri? (uriJson uri) = some uri := by
  have hread : fields? ["uri"] (uriJson uri) = some [some (ofText uri)] :=
    fields?_ofMembers rfl (by decide)
  rw [documentUri?, hread]
  exact uri?_ofText h

theorem closeUri?_uriJson {uri : Text} (h : Url.normalize? uri = some uri) :
    closeUri? (ofMembers [("textDocument", uriJson uri)]) = some uri := by
  have hread : fields? ["textDocument"] (ofMembers [("textDocument", uriJson uri)]) =
      some [some (uriJson uri)] :=
    fields?_ofMembers rfl (by decide)
  rw [closeUri?, hread]
  exact documentUri?_uriJson h

theorem OpenParams.ofJson?_toJson {p : OpenParams} (h : Url.normalize? p.uri = some p.uri) :
    ofJson? p.toJson = some p := by
  have hversion : int32? (ofInt 1) = some 1 := by decide
  have hparams (document : Json) :
      fields? ["textDocument"] (ofMembers [("textDocument", document)]) = some [some document] :=
    fields?_ofMembers rfl (by decide)
  have hdocument : fields? ["uri", "languageId", "version", "text"] (ofMembers [
      ("uri", ofText p.uri), ("languageId", ofText p.language), ("version", ofInt 1),
      ("text", ofText p.content)]) =
      some [some (ofText p.uri), some (ofText p.language), some (ofInt 1),
        some (ofText p.content)] :=
    fields?_ofMembers rfl (by decide)
  rw [ofJson?, toJson, hparams]
  simp only [Option.bind_eq_bind, Option.bind_some, hdocument, uri?_ofText h, hversion,
    text?_ofText, Option.pure_def]

theorem changeText?_textJson (text : Text) : changeText? (textJson text) = some text := by
  have hread : fields? ["range", "rangeLength", "text"] (textJson text) =
      some [none, none, some (ofText text)] :=
    fields?_of_field? rfl (by decide : AreNames ["text"]) (by simp [field?])
  rw [changeText?, hread]
  exact text?_ofText text

theorem ChangeParams.ofJson?_toJson {p : ChangeParams} (h : Url.normalize? p.uri = some p.uri) :
    ofJson? p.toJson = some p := by
  have hversion : int32? (ofInt 2) = some 2 := by decide
  have htexts : listOf? changeText? (.array (p.texts.map textJson)) = some p.texts := by
    rw [listOf?, items?, Option.bind_eq_bind, Option.bind_some, List.mapM_map]
    refine (mapM_eq_some_map fun text _ => changeText?_textJson text).trans ?_
    rw [List.map_id']
  have hparams (document changes : Json) : fields? ["textDocument", "contentChanges"]
      (ofMembers [("textDocument", document), ("contentChanges", changes)]) =
      some [some document, some changes] :=
    fields?_ofMembers rfl (by decide)
  have hdocument : fields? ["uri", "version"]
      (ofMembers [("uri", ofText p.uri), ("version", ofInt 2)]) =
      some [some (ofText p.uri), some (ofInt 2)] :=
    fields?_ofMembers rfl (by decide)
  rw [ofJson?, toJson, hparams]
  simp only [Option.bind_eq_bind, Option.bind_some, hdocument, hversion, uri?_ofText h, htexts,
    Option.pure_def]

theorem ActionParams.ofJson?_toJson {uri : Text} (h : Url.normalize? uri = some uri) :
    ofJson? (toJson ⟨uri, []⟩) = some ⟨uri, []⟩ := by
  have hrange : Range.ofJson? (Range.full []).toJson = some (Range.full []) := rfl
  have hcontext : context? (ofMembers [("diagnostics", .array [])]) = some [] := rfl
  have hread : Shape.values? true
      ["textDocument", "range", "context", "workDoneToken", "partialResultToken"]
      (toJson ⟨uri, []⟩) =
      some [some (uriJson uri), some (Range.full []).toJson,
        some (ofMembers [("diagnostics", .array [])]), none, none] :=
    fields?_of_field? rfl (by decide : AreNames ["textDocument", "range", "context"])
      (by simp [field?])
  rw [ofJson?, hread]
  simp only [Option.bind_eq_bind, Option.bind_some, optional?, hrange, documentUri?_uriJson h,
    hcontext, Option.pure_def]

theorem Command.says_message {command : Command} (h : command.IsPlain) :
    command.message.Says command := by
  cases h with
  | opened h => exact .opened rfl rfl (OpenParams.ofJson?_toJson h)
  | changed h => exact .changed rfl rfl (ChangeParams.ofJson?_toJson h)
  | closed h => exact .closed rfl rfl (closeUri?_uriJson h)
  | asked h => exact .asked rfl rfl (ActionParams.ofJson?_toJson h)

theorem Command.says_messages {commands : List Command}
    (h : ∀ command ∈ commands, command.IsPlain) :
    List.Forall₂ Message.Says (commands.map message) commands := by
  rw [List.forall₂_map_left_iff, List.forall₂_same]
  exact fun command hm => says_message (h command hm)

end SnippetReview.Editor
