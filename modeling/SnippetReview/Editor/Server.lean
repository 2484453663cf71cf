import SnippetReview.Editor.Message
import SnippetReview.Editor.Params
import SnippetReview.Reviewer

/-!
The server for editors. A message is handled up to the review that it starts; the end of the review
is a step of its own, so that other messages may come in between.
-/

namespace SnippetReview.Editor

open Json

inductive Phase where
  | waiting
  | running
  | closing
  | exited
  deriving DecidableEq, Repr

structure Server where
  phase : Phase := .waiting
  documents : Workspace := []
  outbox : List Notice := []

structure Handled where
  server : Server
  response : Option Response := none
  review : Option Snapshot := none

namespace Server

def version : Text :=
  "0.1.0".toList

def introduction : Json :=
  ofMembers [
    ("capabilities", ofMembers [
      ("textDocumentSync", ofInt 1),
      ("codeActionProvider", ofMembers [
        ("codeActionKinds", .array [ofText "quickfix".toList]),
        ("resolveProvider", .bool false)])]),
    ("serverInfo", ofMembers [
      ("name", ofText "snippet-checker".toList),
      ("version", ofText version)])]

/-- Nothing is sent before the server runs or after it has exited. -/
def send (server : Server) (notice : Notice) : Server :=
  match server.phase with
  | .running => { server with outbox := server.outbox ++ [notice] }
  | .closing => { server with outbox := server.outbox ++ [notice] }
  | _ => server

def fetch (server : Server) : List Notice × Server :=
  (server.outbox, { server with outbox := [] })

def openDocument (server : Server) (p : OpenParams) : Handled :=
  let documents := server.documents.openDocument p.uri p.language p.content
  ⟨{ server with documents := documents }, none, documents.snapshot? p.uri⟩

def changeDocument (server : Server) (p : ChangeParams) : Handled :=
  match p.texts.getLast? with
  | none => ⟨server, none, none⟩
  | some content =>
    match server.documents.change? p.uri content with
    | none => ⟨server, none, none⟩
    | some documents => ⟨{ server with documents := documents }, none, documents.snapshot? p.uri⟩

def closeDocument (server : Server) (uri : Text) : Handled :=
  ⟨{ server with documents := server.documents.close uri }.send (.publish uri []), none, none⟩

def finish (server : Server) (s : Snapshot) (report : Report) : Server :=
  match server.documents.finish? s report with
  | none => server
  | some documents =>
    { server with documents := documents }.send
      (.publish s.uri (report.findings.map fun f => Diagnostic.ofFinding f s.content))

structure Edit where
  range : Range
  newText : Text
  deriving DecidableEq, Repr

def quickFix? (server : Server) (uri : Text) : Option Edit := do
  let d ← server.documents.get? uri
  return ⟨Range.full d.content, ← d.pending⟩

def Edit.toJson (e : Edit) : Json :=
  ofMembers [("range", e.range.toJson), ("newText", ofText e.newText)]

def Edit.offer (e : Edit) (p : ActionParams) : Json :=
  .array [ofMembers [
    ("title", ofText "Apply suggested corrections".toList),
    ("kind", ofText "quickfix".toList),
    ("diagnostics", .array (p.diagnostics.map Diagnostic.toJson)),
    ("edit", ofMembers [
      ("changes", .object [(Quoted.escape p.uri, .array [e.toJson])])])]]

def actions (server : Server) (p : ActionParams) : Json :=
  match server.quickFix? p.uri with
  | none => .null
  | some edit => edit.offer p

def respond (m : Message) (outcome : Except Fault Json) : Option Response :=
  m.id.map fun id => ⟨id, outcome⟩

def refuse (server : Server) (m : Message) (fault : Fault) : Handled :=
  ⟨server, respond m (.error fault), none⟩

/-- Handles a notification. With an id it is not one, and with other parameters it does nothing. -/
def notify {α : Type} (server : Server) (m : Message) (params : Option α)
    (handle : α → Handled) : Handled :=
  if m.id.isSome then server.refuse m .invalidRequest
  else
    match params with
    | none => ⟨server, none, none⟩
    | some p => handle p

def answer {α : Type} (server : Server) (m : Message) (params : Option α)
    (handle : α → Except Fault Json) : Handled :=
  ⟨server, respond m (match params with
    | none => .error .invalidParams
    | some p => handle p), none⟩

def shaped? (m : Message) (shape : Shape) : Option Unit :=
  m.params.bind fun params => if shape.accepts params then some () else none

def start (server : Server) (m : Message) : Handled :=
  match server.phase with
  | .waiting =>
    if m.id.isSome && (shaped? m Shape.start).isSome then
      { server with phase := .running }.answer m (some ()) fun _ => .ok introduction
    else server.answer m none fun (_ : Unit) => .ok introduction
  | _ => server.refuse m .invalidRequest

def phaseFault (server : Server) : Option Fault :=
  match server.phase with
  | .waiting => some .notInitialized
  | .running => none
  | _ => some .invalidRequest

def shutdown (server : Server) (m : Message) : Handled :=
  let params := if m.params.isSome then none else some ()
  { server with phase := .closing }.answer m params fun _ => .ok .null

def handleRunning (server : Server) (m : Message) : Method → Handled
  | .shutdown => server.shutdown m
  | .started =>
    server.notify m (shaped? m (.record false [])) fun _ =>
      ⟨server.send (.log "snippet-checker initialized".toList), none, none⟩
  | .didOpen => server.notify m (m.params.bind OpenParams.ofJson?) server.openDocument
  | .didChange => server.notify m (m.params.bind ChangeParams.ofJson?) server.changeDocument
  | .didClose => server.notify m (m.params.bind closeUri?) server.closeDocument
  | .codeAction =>
    server.answer m (m.params.bind ActionParams.ofJson?) fun p => .ok (server.actions p)
  | .otherRequest shape => server.answer m (shaped? m shape) fun _ => .error .unsupported
  | _ => server.notify m (some ()) fun _ => ⟨server, none, none⟩

def handleUnknown (server : Server) (m : Message) : Handled :=
  match m.method with
  | '$' :: '/' :: _ => ⟨server, none, none⟩
  | name => server.refuse m (.unknownMethod name)

def handleMethod (server : Server) (m : Message) : Method → Handled
  | .start => server.start m
  | .exit => ⟨{ server with phase := .exited, outbox := [] }, none, none⟩
  | .cancel => server.notify m (some ()) fun _ => ⟨server, none, none⟩
  | method =>
    match server.phaseFault with
    | some fault => server.refuse m fault
    | none => server.handleRunning m method

def receive? (server : Server) (m : Message) : Option Handled :=
  match server.phase with
  | .exited => none
  | _ =>
    match Method.ofName? m.method with
    | some method => some (server.handleMethod m method)
    | none => some (server.handleUnknown m)

end Server

namespace Handled

def isHeld (h : Handled) (reviewer : Reviewer) : Bool :=
  h.review.any fun s => reviewer.asks s.content

def report? (h : Handled) (reviewer : Reviewer) (service : Enrichment.Question → Enrichment.Reply) :
    Option (Snapshot × Report) :=
  h.review.map fun s => (s, (reviewer.review service s.content s.language).report)

end Handled

def Server.finishReview (server : Server) : Option (Snapshot × Report) → Server
  | none => server
  | some (s, report) => server.finish s report

structure Exchange where
  response : Option Response := none
  sent : List Notice := []

/-- Handles a message together with the review that it starts, unless the server has exited. -/
def Server.serve? (server : Server) (reviewer : Reviewer)
    (service : Enrichment.Question → Enrichment.Reply) (m : Message) : Option (Exchange × Server) :=
  (server.receive? m).map fun handled =>
    let (sent, server) := (handled.server.finishReview (handled.report? reviewer service)).fetch
    (⟨handled.response, sent⟩, server)

end SnippetReview.Editor
