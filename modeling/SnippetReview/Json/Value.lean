import SnippetReview.Json.Quoted

/-!
JSON values. Numbers and strings are kept as they are written, so that a value may hold what no
record could decode.
-/

namespace SnippetReview

inductive Json where
  | null
  | bool (b : Bool)
  | number (written : Text)
  | string (written : Text)
  | array (items : List Json)
  | object (members : List (Text × Json))

namespace Json

def ofText (text : Text) : Json :=
  string (Quoted.escape text)

def ofNat (n : Nat) : Json :=
  number (Text.ofNat n)

def ofMembers (members : List (String × Json)) : Json :=
  object (members.map fun m => (m.1.toList, m.2))

def ofOption (value : Option Json) : Json :=
  value.getD null

mutual

/-- Writes a value after the text in `out`, which is kept backwards. -/
def writeAfter (out : Text) : Json → Text
  | null => "null".toList.reverseAux out
  | bool true => "true".toList.reverseAux out
  | bool false => "false".toList.reverseAux out
  | number written => written.reverseAux out
  | string written => '"' :: written.reverseAux ('"' :: out)
  | array [] => ']' :: '[' :: out
  | array (item :: items) => ']' :: writeItems (writeAfter ('[' :: out) item) items
  | object [] => '\x7d' :: '\x7b' :: out
  | object ((key, value) :: members) =>
    '\x7d' :: writeMembers
      (writeAfter (':' :: '"' :: key.reverseAux ('"' :: '\x7b' :: out)) value) members

def writeItems (out : Text) : List Json → Text
  | [] => out
  | item :: items => writeItems (writeAfter (',' :: out) item) items

def writeMembers (out : Text) : List (Text × Json) → Text
  | [] => out
  | (key, value) :: members =>
    writeMembers (writeAfter (':' :: '"' :: key.reverseAux ('"' :: ',' :: out)) value) members

end

def write (value : Json) : Text :=
  (writeAfter [] value).reverse

def text? : Json → Option Text
  | string written => Quoted.decode written
  | _ => none

def bool? : Json → Option Bool
  | bool b => some b
  | _ => none

def items? : Json → Option (List Json)
  | array items => some items
  | _ => none

def natural? : Json → Option Nat
  | number written =>
    let n := Text.decimalValue written
    if written.all Char.isDigit && n < UInt64.size then some n else none
  | _ => none

def integer? : Json → Option Int
  | number ('-' :: digits) =>
    let n := Text.decimalValue digits
    if digits.all Char.isDigit && n != 0 then some (-(n : Int)) else none
  | number digits => if digits.all Char.isDigit then some (Text.decimalValue digits) else none
  | _ => none

def decodeKeys (members : List (Text × Json)) : Option (List (Text × Json)) :=
  members.mapM fun m => (Quoted.decode m.1).map fun key => (key, m.2)

def field? (members : List (Text × Json)) (name : Text) : Option (Option Json) :=
  match members.filter fun m => m.1 = name with
  | [] => some none
  | [m] => some (some m.2)
  | _ => none

/-- The fields of a record, by their names in an object or in order in an array. An object may have
other members as well; an array has the first `needed` fields at least and no others. -/
def someFields? (names : List String) (needed : Nat) : Json → Option (List (Option Json))
  | object members => do
    let members ← decodeKeys members
    names.mapM fun name => field? members name.toList
  | array items =>
    if needed ≤ items.length && items.length ≤ names.length then
      some ((List.range names.length).map fun i => items[i]?)
    else none
  | _ => none

def fields? (names : List String) (value : Json) : Option (List (Option Json)) :=
  value.someFields? names names.length

def get? (name : String) : Json → Option Json
  | object members =>
    (members.reverse.find? fun m => Quoted.decode m.1 == some name.toList).map Prod.snd
  | _ => none

end Json

end SnippetReview
