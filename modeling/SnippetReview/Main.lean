import SnippetReview.Editor.Server
import SnippetReview.Settings
import SnippetReview.Shipped
import SnippetReview.Web.Service

namespace SnippetReview.Main

/-! ### Settings -/

def usualPath : IO (Option Text) := do
  let below (folder : String) : Option Text :=
    some (folder ++ "/snippet-checker/config.toml").toList
  match ← IO.getEnv "XDG_CONFIG_HOME", ← IO.getEnv "HOME" with
  | some folder, home =>
    if folder.startsWith "/" then return below folder
    else return home.bind fun home => below (home ++ "/.config")
  | none, home => return home.bind fun home => below (home ++ "/.config")

def contentAt (path : Text) : IO FileContent := do
  try
    let bytes ← IO.FS.readBinFile (String.ofList path)
    match Utf8.decode? bytes.toList with
    | some text => return .text text
    | none => return .unreadable
  catch e =>
    match e with
    | .noFileOrDirectory .. => return .missing
    | _ => return .unreadable

def load (call : CommandLine.Invocation) : IO (Except SettingsFault Settings) := do
  let usual ← usualPath
  let content ←
    match call.config.or usual with
    | none => pure .missing
    | some path => contentAt path
  let world : Environment := ⟨fun _ => content, usual, fun _ => none⟩
  match Settings.file world call with
  | .error fault => return .error fault
  | .ok file =>
    let key ← IO.getEnv (String.ofList file.enrichment.keyVariable)
    return .ok (Settings.resolve call file (key.map String.toList))

/-! ### Messages with headers -/

def header? (line : Text) : Option (Text × Text) :=
  let name := line.takeWhile (· != ':')
  match line.drop name.length with
  | _ :: value => some (name.map Char.toLower, Text.trim value)
  | [] => none

def bodyLength (headers : List (Text × Text)) : Nat :=
  ((headers.lookup "content-length".toList).map Text.decimalValue).getD 0

partial def readHeaders (input : IO.FS.Stream) : IO (List (Text × Text)) := do
  let line := Text.trim (← input.getLine).toList
  if line.isEmpty then return []
  return (header? line).toList ++ (← readHeaders input)

partial def readBytes (input : IO.FS.Stream) (count : Nat) : IO (List UInt8) := do
  if count = 0 then return []
  let bytes ← input.read (.ofNat count)
  if bytes.isEmpty then return []
  return bytes.toList ++ (← readBytes input (count - bytes.size))

/-! ### Editor -/

def sendMessage (output : IO.FS.Stream) (message : Json) : IO Unit := do
  let body := String.ofList message.write
  output.putStr s!"Content-Length: {body.utf8ByteSize}\r\n\r\n{body}"
  output.flush

partial def serveEditor (reviewer : Reviewer) (service : Enrichment.Question → Enrichment.Reply)
    (input output : IO.FS.Stream) (server : Editor.Server) : IO Unit := do
  let headers ← readHeaders input
  if headers.isEmpty then return
  let body ← readBytes input (bodyLength headers)
  match (Json.readBytes? body).bind Editor.Message.ofJson? with
  | none => serveEditor reviewer service input output server
  | some message =>
    match server.receive? message with
    | none => return
    | some handled =>
      let server := handled.server.finishReview (handled.report? reviewer service)
      for response in handled.response do
        sendMessage output response.toJson
      let (notices, server) := server.fetch
      for notice in notices do
        sendMessage output notice.toJson
      serveEditor reviewer service input output server

/-! ### Web -/

def requestLine? (line : Text) : Option (Text × Text) :=
  match Text.pieces ' ' line with
  | [method, target, _] => some (method, target)
  | _ => none

def sendResponse (output : IO.FS.Stream) (response : Web.Response) : IO Unit := do
  let body := String.ofList response.body
  output.putStr s!"HTTP/1.1 {response.status}\r\n"
  for kind in response.contentType do
    output.putStr s!"content-type: {String.ofList kind}\r\n"
  for methods in response.allow do
    output.putStr s!"allow: {String.ofList methods}\r\n"
  output.putStr s!"content-length: {body.utf8ByteSize}\r\n\r\n{body}"
  output.flush

partial def serveWeb (reviewer : Reviewer) (backend : Enrichment.Backend)
    (input output : IO.FS.Stream) (asked : List Enrichment.Question) : IO Unit := do
  match requestLine? (Text.trim (← input.getLine).toList) with
  | none => return
  | some (method, target) =>
    let headers ← readHeaders input
    let body ← readBytes input (bodyLength headers)
    let (response, asked) := Web.respond reviewer backend ⟨method, target, headers, body⟩ asked
    sendResponse output response
    serveWeb reviewer backend input output asked

/-! ### Program -/

def noNetwork : Chat.Network :=
  fun _ => none

def run (settings : Settings) (catalog : Catalog) : IO Unit := do
  let reviewer := settings.reviewer catalog
  let service := settings.reply noNetwork
  let input ← IO.getStdin
  let output ← IO.getStdout
  match settings.transport with
  | .editor => serveEditor reviewer service input output {}
  | .web => serveWeb reviewer (.atOnce service) input output []

def complain (message : String) (code : UInt32) : IO UInt32 := do
  IO.eprintln s!"Error: {message}"
  return code

def start (args : List String) : IO UInt32 := do
  match CommandLine.read (args.map String.toList) with
  | .error (.help page) =>
    IO.print page.string
    return 0
  | .error .version =>
    IO.print (String.ofList CommandLine.versionText)
    return 0
  | .error (.fault f) => complain f.message 2
  | .ok call =>
    match ← load call, Shipped.catalog with
    | .error fault, _ => complain (String.ofList fault.message) 1
    | _, .error fault => complain (String.ofList fault.message) 1
    | .ok settings, .ok catalog =>
      run settings catalog
      return 0

end SnippetReview.Main

def main (args : List String) : IO UInt32 :=
  SnippetReview.Main.start args
