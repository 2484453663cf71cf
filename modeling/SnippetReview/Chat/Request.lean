import SnippetReview.Enrichment
import SnippetReview.Url

namespace SnippetReview.Chat

open Json Enrichment

structure Service where
  baseUrl : Text
  apiKey : Text
  model : Text
  deriving DecidableEq, Repr

structure Turn where
  role : Text
  content : Text
  deriving DecidableEq, Repr

def systemPrompt (language : Text) : Text :=
  "You are a code reviewer. Analyze the following ".toList ++ language ++
    (" code for errors and provide a corrected version.\n" ++
    "Respond with a single JSON object and nothing else, in exactly this shape:\n" ++
    "\x7b\"hasErrors\": boolean, \"errorCount\": number, \"warningCount\": number, " ++
    "\"errors\": [\x7b\"line\": number, \"message\": string, " ++
    "\"severity\": \"error\"|\"warning\"\x7d], " ++
    "\"correctedCode\": string, \"explanation\": string\x7d\n" ++
    "Line numbers start at 1. errorCount and warningCount must equal the number of entries " ++
    "with that severity.").toList

def turns (q : Question) : List Turn :=
  [⟨"system".toList, systemPrompt q.language⟩, ⟨"user".toList, q.code⟩]

def Turn.toJson (t : Turn) : Json :=
  ofMembers [("role", ofText t.role), ("content", ofText t.content)]

def body (model : Text) (q : Question) : Json :=
  ofMembers [
    ("model", ofText model),
    ("messages", .array ((turns q).map Turn.toJson)),
    ("temperature", .number "0.0".toList),
    ("response_format", ofMembers [("type", ofText "json_object".toList)])]

structure Request where
  url : Url
  authorization : Text
  body : Text
  deriving DecidableEq, Repr

namespace Service

def endpoint (s : Service) : Text :=
  (s.baseUrl.reverse.dropWhile (· == '/')).reverse ++ "/chat/completions".toList

def isHeaderValue (text : Text) : Bool :=
  text.all fun c => c == '\t' || (0x20 ≤ c.toNat && c.toNat != 0x7F)

def request? (s : Service) (q : Question) : Option Request := do
  let url ← Url.read? s.endpoint
  let named (scheme : String) : Bool := url.scheme == scheme.toList
  if !(named "http" || named "https") || !isHeaderValue s.apiKey then none
  return ⟨url, "Bearer ".toList ++ s.apiKey, (Chat.body s.model q).write⟩

end Service

end SnippetReview.Chat
