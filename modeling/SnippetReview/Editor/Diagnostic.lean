import SnippetReview.Editor.Range
import SnippetReview.Url

namespace SnippetReview.Editor

open Json

inductive Label where
  | number (n : Int)
  | text (t : Text)
  deriving DecidableEq, Repr

structure Related where
  uri : Text
  range : Range
  message : Text
  deriving DecidableEq, Repr

structure Diagnostic where
  range : Range
  severity : Option Int := none
  code : Option Label := none
  description : Option Text := none
  source : Option Text := none
  message : Text
  related : Option (List Related) := none
  tags : Option (List Int) := none
  data : Option Json := none

def ofInt (n : Int) : Json :=
  .number (if n < 0 then '-' :: Text.ofNat n.natAbs else Text.ofNat n.natAbs)

def int32? (value : Json) : Option Int := do
  let n ← value.integer?
  if -0x80000000 ≤ n && n < 0x80000000 then some n else none

def uri? (value : Json) : Option Text := do
  Url.normalize? (← value.text?)

def listOf? {α : Type} (read : Json → Option α) (value : Json) : Option (List α) := do
  (← value.items?).mapM read

def optional? {α : Type} (read : Json → Option α) : Option Json → Option (Option α)
  | none => some none
  | some .null => some none
  | some value => (read value).map some

def member {α : Type} (name : String) (write : α → Json) (value : Option α) :
    List (String × Json) :=
  (value.map fun v => (name, write v)).toList

namespace Label

def toJson : Label → Json
  | number n => ofInt n
  | text t => ofText t

def ofJson? (value : Json) : Option Label :=
  ((int32? value).map number).orElse fun _ => value.text?.map text

end Label

namespace Related

def toJson (r : Related) : Json :=
  ofMembers [
    ("location", ofMembers [("uri", ofText r.uri), ("range", r.range.toJson)]),
    ("message", ofText r.message)]

def ofJson? (value : Json) : Option Related := do
  match ← value.fields? ["location", "message"] with
  | [some location, some message] =>
    match ← location.fields? ["uri", "range"] with
    | [some uri, some range] => return ⟨← uri? uri, ← Range.ofJson? range, ← message.text?⟩
    | _ => none
  | _ => none

end Related

namespace Diagnostic

def ofFinding (f : Finding) (content : Text) : Diagnostic where
  range := Range.ofFinding f content
  severity := some (match f.severity with
    | .error => 1
    | .warning => 2)
  source := some "snippet-checker".toList
  message := f.message

def toJson (d : Diagnostic) : Json :=
  ofMembers (
    [("range", d.range.toJson)] ++
    member "severity" ofInt d.severity ++
    member "code" Label.toJson d.code ++
    member "codeDescription" (fun href => ofMembers [("href", ofText href)]) d.description ++
    member "source" ofText d.source ++
    [("message", ofText d.message)] ++
    member "relatedInformation" (fun l => .array (l.map Related.toJson)) d.related ++
    member "tags" (fun l => .array (l.map ofInt)) d.tags ++
    member "data" id d.data)

def fieldNames : List String :=
  ["range", "severity", "code", "codeDescription", "source", "message", "relatedInformation",
    "tags", "data"]

def href? (value : Json) : Option Text := do
  match ← value.fields? ["href"] with
  | [some href] => uri? href
  | _ => none

def ofJson? (value : Json) : Option Diagnostic := do
  match ← value.fields? fieldNames with
  | [some range, severity, code, description, source, some message, related, tags, data] =>
    return ⟨← Range.ofJson? range, ← optional? int32? severity, ← optional? Label.ofJson? code,
      ← optional? href? description, ← optional? text? source, ← message.text?,
      ← optional? (listOf? Related.ofJson?) related, ← optional? (listOf? int32?) tags,
      ← optional? some data⟩
  | _ => none

end Diagnostic

end SnippetReview.Editor
