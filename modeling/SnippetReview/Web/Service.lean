import SnippetReview.Json.Bytes
import SnippetReview.Reviewer
import SnippetReview.Web.MediaType

/-!
The review as a web service. Defects of a snippet are data; only a request that cannot be read is
answered with an error.
-/

namespace SnippetReview.Web

open Json Enrichment

structure Request where
  method : Text
  target : Text
  headers : List (Text × Text)
  body : List UInt8

structure Response where
  status : Nat
  contentType : Option Text := none
  allow : Option Text := none
  body : Text := []
  deriving DecidableEq, Repr

namespace Request

def path (r : Request) : Text :=
  r.target.takeWhile fun c => c != '?' && c != '#'

def header? (r : Request) (name : Text) : Option Text :=
  (r.headers.find? fun h => h.1.map Char.toLower == name).map Prod.snd

def hasJson (r : Request) : Bool :=
  match (r.header? "content-type".toList).bind MediaType.read? with
  | some m => m.isJson
  | none => false

end Request

structure Snippet where
  code : Text
  language : Text
  deriving DecidableEq, Repr

namespace Snippet

def language? : Option Json → Option Text
  | none => some []
  | some .null => some []
  | some value => value.text?

def ofJson? (value : Json) : Option Snippet := do
  match ← value.someFields? ["code", "language"] 1 with
  | [some code, language] => return ⟨← code.text?, ← language? language⟩
  | _ => none

def toJson (s : Snippet) : Json :=
  ofMembers [("code", ofText s.code), ("language", ofText s.language)]

end Snippet

def bodyLimit : Nat := 2097152

def snippet? (r : Request) : Option Snippet :=
  if r.hasJson && r.body.length ≤ bodyLimit then (readBytes? r.body).bind Snippet.ofJson?
  else none

def ofReport (status : Nat) (report : Report) : Response where
  status := status
  contentType := some "application/json".toList
  body := report.toJson.write

def review (reviewer : Reviewer) (backend : Backend) (r : Request) : Asking Response := do
  match snippet? r with
  | some s => return ofReport 200 (← reviewer.validate backend s.code s.language)
  | none => return ofReport 500 .degraded

def health (body : Text) : Response where
  status := 200
  contentType := some "text/plain; charset=utf-8".toList
  body := body

def notAllowed (methods : Text) : Response where
  status := 405
  allow := some methods

def respond (reviewer : Reviewer) (backend : Backend) (r : Request) : Asking Response :=
  if r.path = "/api/validate".toList then
    if r.method = "POST".toList then review reviewer backend r
    else return notAllowed "POST".toList
  else if r.path = "/health".toList then
    if r.method = "GET".toList then return health "ok".toList
    else if r.method = "HEAD".toList then return health []
    else return notAllowed "GET,HEAD".toList
  else return { status := 404 }

def serve (reviewer : Reviewer) (backend : Backend) (requests : List Request) :
    Asking (List Response) :=
  requests.mapM (respond reviewer backend)

def answer (reviewer : Reviewer) (service : Question → Reply) (r : Request) : Response :=
  (respond reviewer (.atOnce service) r []).1

end SnippetReview.Web
