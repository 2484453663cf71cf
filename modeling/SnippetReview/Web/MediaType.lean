import SnippetReview.Text

namespace SnippetReview.Web

structure MediaType where
  kind : Text
  subtype : Text
  suffix : Option Text := none
  deriving DecidableEq, Repr

namespace MediaType

def isToken (c : Char) : Bool :=
  c.isAlphanum || "!#$%&'*+-.^_\x60|~".toList.contains c

def isQuotable (c : Char) : Bool :=
  0x20 ≤ c.toNat && c.toNat < 0x7F

def afterQuoted? : Text → Option Text
  | [] => none
  | first :: rest =>
    if isQuotable first then
      let body := rest.takeWhile fun c => isQuotable c && c != '"'
      match rest.drop body.length with
      | '"' :: rest => some rest
      | _ => none
    else none

def nextParameter? (text : Text) : Option Text :=
  match text.dropWhile (· == ' ') with
  | [] => some []
  | ';' :: rest => some rest
  | _ => none

def parameter? (text : Text) : Option Text :=
  let name := text.takeWhile isToken
  match text.drop name.length with
  | '=' :: rest =>
    if name.isEmpty then none
    else
      match rest with
      | '"' :: rest => (afterQuoted? rest).bind nextParameter?
      | _ =>
        let value := rest.takeWhile isToken
        match rest.drop value.length with
        | [] => some []
        | ';' :: rest => if value.isEmpty then none else some rest
        | _ => none
  | _ => none

def areParameters : Nat → Text → Bool
  | _, [] => true
  | 0, _ => false
  | fuel + 1, text =>
    match text with
    | ' ' :: rest => areParameters fuel rest
    | _ =>
      match parameter? text with
      | some rest => areParameters fuel rest
      | none => false

def splitSuffix (name : Text) : Text × Option Text :=
  let suffix := (name.reverse.takeWhile (· != '+')).reverse
  let before := name.take (name.length - suffix.length - 1)
  if suffix.length = name.length || before.isEmpty then (name, none) else (before, some suffix)

def ofNames (kind name : Text) : MediaType :=
  let (subtype, suffix) := splitSuffix (name.map Char.toLower)
  ⟨kind.map Char.toLower, subtype, suffix⟩

def read? (text : Text) : Option MediaType :=
  let kind := text.takeWhile isToken
  match text.drop kind.length with
  | '/' :: rest =>
    let name := rest.takeWhile isToken
    if kind.isEmpty then none
    else
      match rest.drop name.length with
      | [] => some (ofNames kind name)
      | ';' :: rest =>
        if !name.isEmpty && areParameters (rest.length + 1) rest then some (ofNames kind name)
        else none
      | _ => none
  | _ => none

def isJson (m : MediaType) : Bool :=
  m.kind == "application".toList &&
    (m.subtype == "json".toList || m.suffix == some "json".toList)

end MediaType

end SnippetReview.Web
