import SnippetReview.Chat.Request
import SnippetReview.Json.Bytes

namespace SnippetReview.Chat

open Json Enrichment

structure Reply where
  status : Nat
  body : List UInt8
  deriving DecidableEq, Repr

def content? (choice : Json) : Option (Option Text) := do
  match ← choice.fields? ["message"] with
  | [some message] =>
    match ← message.fields? ["content"] with
    | [none] => some none
    | [some .null] => some none
    | [some content] => content.text?.map some
    | _ => none
  | _ => none

def contents? (value : Json) : Option (List (Option Text)) := do
  match ← value.fields? ["choices"] with
  | [some choices] => (← choices.items?).mapM content?
  | _ => none

/-- The answer of a reply: the content of the first choice, unless it is blank. All choices have to
be of the right form. -/
def Reply.answer (r : Reply) : Except Failure Text :=
  if r.status < 200 || 300 ≤ r.status then .error (.status r.status)
  else
    match (readBytes? r.body).bind contents? with
    | none => .error (.transport "error decoding response body".toList)
    | some contents =>
      match contents.head? with
      | some (some text) => if (Text.trim text).isEmpty then .error .emptyResponse else .ok text
      | _ => .error .emptyResponse

abbrev Network := Request → Option Reply

def Service.ask (s : Service) (network : Network) (q : Question) : Except Failure Text :=
  match s.request? q with
  | none => .error (.transport "builder error".toList)
  | some request =>
    match network request with
    | none => .error (.transport "error sending request".toList)
    | some reply => reply.answer

def Service.reply (s : Service) (network : Network) (q : Question) : Enrichment.Reply :=
  match s.ask network q with
  | .ok text => .answer text
  | .error f => .failure f

end SnippetReview.Chat
