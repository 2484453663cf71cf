import SnippetReview.Editor.Diagnostic

namespace SnippetReview.Editor

open Json

inductive Shape where
  | any
  | text
  | uri
  | flag
  | number
  | int
  /-- An unsigned word of 32 bits. -/
  | word
  | oneOf (names : List String)
  | list (item : Shape)
  | either (s t : Shape)
  /-- The fields in order, each needed or not. An open record has no form as an array. -/
  | record (isOpen : Bool) (fields : List (String × Bool × Shape))

namespace Shape

def values? (isOpen : Bool) (names : List String) : Json → Option (List (Option Json))
  | .array items => if isOpen then none else (Json.array items).fields? names
  | value => value.fields? names

def name? : Json → Option Text
  | .object [(key, .null)] => Quoted.decode key
  | value => value.text?

mutual

def accepts : Shape → Json → Bool
  | any, _ => true
  | text, value => value.text?.isSome
  | uri, value => (uri? value).isSome
  | flag, value => value.bool?.isSome
  | number, value =>
    match value with
    | .number _ => true
    | _ => false
  | int, value => (int32? value).isSome
  | word, value => (Position.word? value).isSome
  | oneOf names, value =>
    match name? value with
    | some name => names.any fun n => n.toList == name
    | none => false
  | list item, value =>
    match value with
    | .array items => items.all (accepts item)
    | _ => false
  | either s t, value => accepts s value || accepts t value
  | record isOpen fields, value =>
    match values? isOpen (fields.map Prod.fst) value with
    | some values => acceptsFields fields values
    | none => false

def acceptsFields : List (String × Bool × Shape) → List (Option Json) → Bool
  | [], _ => true
  | (_, needed, shape) :: fields, value :: values =>
    (match value with
      | none => !needed
      | some .null => !needed || accepts shape .null
      | some value => accepts shape value) && acceptsFields fields values
  | _ :: _, [] => false

end

def need (name : String) (shape : Shape) : String × Bool × Shape :=
  (name, true, shape)

def may (name : String) (shape : Shape) : String × Bool × Shape :=
  (name, false, shape)

def closed (fields : List (String × Bool × Shape)) : Shape :=
  record false fields

def position : Shape :=
  closed [need "line" word, need "character" word]

def range : Shape :=
  closed [need "start" position, need "end" position]

def label : Shape :=
  either int text

def request (fields : List (String × Bool × Shape)) : Shape :=
  record true (fields ++ [may "workDoneToken" label, may "partialResultToken" label])

def document : String × Bool × Shape :=
  need "textDocument" (closed [need "uri" uri])

def inDocument (fields : List (String × Bool × Shape)) : Shape :=
  request (document :: fields)

def atPosition (fields : List (String × Bool × Shape)) : Shape :=
  inDocument (need "position" position :: fields)

def command : Shape :=
  closed [need "title" text, need "command" text, may "arguments" (list any)]

def location : Shape :=
  closed [need "uri" uri, need "range" range]

def hierarchyItem : Shape :=
  closed [need "name" text, need "kind" int, may "tags" (list int), may "detail" text,
    need "uri" uri, need "range" range, need "selectionRange" range, may "data" any]

def color : Shape :=
  closed [need "red" number, need "green" number, need "blue" number, need "alpha" number]

def formatting : Shape :=
  record true [need "tabSize" word, need "insertSpaces" flag, may "trimTrailingWhitespace" flag,
    may "insertFinalNewline" flag, may "trimFinalNewlines" flag]

def files (names : List String) : Shape :=
  closed [need "files" (list (closed (names.map fun name => need name text)))]

end Shape

end SnippetReview.Editor
