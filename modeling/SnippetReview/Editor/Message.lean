import SnippetReview.Editor.Diagnostic

namespace SnippetReview.Editor

open Json

inductive MessageId where
  | number (n : Int)
  | text (t : Text)
  | null
  deriving DecidableEq, Repr

structure Message where
  method : Text := []
  params : Option Json := none
  id : Option MessageId := none

inductive Fault where
  | notInitialized
  | invalidRequest
  | unknownMethod (name : Text)
  | unsupported
  | invalidParams
  deriving DecidableEq, Repr

structure Response where
  id : MessageId
  outcome : Except Fault Json

namespace MessageId

def toJson : MessageId → Json
  | number n => ofInt n
  | text t => ofText t
  | null => .null

def ofJson? : Json → Option MessageId
  | .null => some null
  | .string written => (Quoted.decode written).map text
  | value => do
    let n ← value.integer?
    let bound : Int := 0x8000000000000000
    if -bound ≤ n && n < bound then some (number n) else none

end MessageId

namespace Message

def version : Text :=
  "2.0".toList

def ofFields? (tag method params id : Option Json) : Option Message := do
  if (← tag).text? != some version then none
  let method ←
    match method with
    | none => some []
    | some value => value.text?
  let id ←
    match id with
    | none => some none
    | some value => (MessageId.ofJson? value).map some
  return ⟨method, params, id⟩

def ofJson? (value : Json) : Option Message := do
  match value with
  | .array items =>
    if 4 < items.length then none
    else ofFields? items[0]? items[1]? items[2]? items[3]?
  | _ =>
    match ← value.fields? ["jsonrpc", "method", "params", "id"] with
    | [tag, method, params, id] => ofFields? tag method params id
    | _ => none

end Message

namespace Fault

def code : Fault → Int
  | notInitialized => -32002
  | invalidRequest => -32600
  | unknownMethod _ => -32601
  | unsupported => -32601
  | invalidParams => -32602

def message : Fault → Text
  | notInitialized => "Server not initialized".toList
  | invalidRequest => "Invalid request".toList
  | unknownMethod _ => "Method not found".toList
  | unsupported => "Method not found".toList
  | invalidParams => "Invalid params".toList

def toJson (f : Fault) : Json :=
  let data :=
    match f with
    | unknownMethod name => [("data", ofText name)]
    | _ => []
  ofMembers ([("code", ofInt f.code), ("message", ofText f.message)] ++ data)

end Fault

def Response.toJson (r : Response) : Json :=
  let outcome :=
    match r.outcome with
    | .ok result => ("result", result)
    | .error f => ("error", f.toJson)
  ofMembers [("jsonrpc", ofText Message.version), outcome, ("id", r.id.toJson)]

inductive Notice where
  | publish (uri : Text) (diagnostics : List Diagnostic)
  | log (message : Text)

namespace Notice

def method : Notice → Text
  | publish .. => "textDocument/publishDiagnostics".toList
  | log _ => "window/logMessage".toList

def params : Notice → Json
  | publish uri diagnostics =>
    ofMembers [
      ("uri", ofText uri),
      ("diagnostics", .array (diagnostics.map Diagnostic.toJson))]
  | log message => ofMembers [("type", ofInt 3), ("message", ofText message)]

def toJson (n : Notice) : Json :=
  ofMembers [
    ("jsonrpc", ofText Message.version),
    ("method", ofText n.method),
    ("params", n.params)]

end Notice

end SnippetReview.Editor
