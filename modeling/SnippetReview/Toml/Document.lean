import SnippetReview.Toml.Quoted
import SnippetReview.Toml.Scalar

namespace SnippetReview.Toml

namespace Document

open Quoted

def afterComment? : Text → Option Text
  | [] => some []
  | c :: rest =>
    if (newline? (c :: rest)).isSome then some (c :: rest)
    else if isPlain c then afterComment? rest
    else none

def skipComment? : Text → Option Text
  | '#' :: rest => afterComment? rest
  | text => some text

def dropSpaces (text : Text) : Text :=
  text.dropWhile isSpace

def lineEnd? (text : Text) : Option Text := do
  match ← skipComment? (dropSpaces text) with
  | [] => some []
  | rest => newline? rest

def skipLines? : Nat → Text → Option Text
  | 0, text => some text
  | fuel + 1, text =>
    match dropSpaces text with
    | [] => some []
    | '#' :: rest => do skipLines? fuel (← afterComment? rest)
    | rest =>
      match newline? rest with
      | some rest => skipLines? fuel rest
      | none => some rest

def skip? (text : Text) : Option Text :=
  skipLines? (text.length + 1) text

def isBare (c : Char) : Bool :=
  c.isAlphanum || c == '_' || c == '-'

def keyPart? (text : Text) : Option (Text × Text) :=
  match text with
  | [] => none
  | c :: _ =>
    if c == '"' || c == '\'' then short? text
    else
      let bare := text.takeWhile isBare
      if bare.isEmpty then none else some (bare, text.drop bare.length)

def key? : Nat → List Text → Text → Option (List Text × Text)
  | 0, _, _ => none
  | fuel + 1, found, text => do
    let (part, rest) ← keyPart? (dropSpaces text)
    match dropSpaces rest with
    | '.' :: rest => key? fuel (part :: found) rest
    | rest => some ((part :: found).reverse, rest)

def isScalar (c : Char) : Bool :=
  c.isAlphanum || c == '_' || c == '+' || c == '-' || c == '.' || c == ':'

def scalarLength (text : Text) : Nat :=
  let n := (text.takeWhile isScalar).length
  match text.drop n with
  | ' ' :: c :: rest =>
    if c.isDigit && Scalar.afterDate? (text.take n) == some [] then
      n + 1 + ((c :: rest).takeWhile isScalar).length
    else n
  | _ => n

def depthLimit : Nat := 80

mutual

def value? : Nat → Nat → Text → Option (Value × Text)
  | 0, _, _ => none
  | fuel + 1, depth, text =>
    match text with
    | [] => none
    | c :: rest =>
      if c == '"' || c == '\'' then (string? text).map fun (s, rest) => (.string s, rest)
      else if c == '[' then
        if depth == 0 then none else items? fuel (depth - 1) [] rest
      else if c == '\x7b' then
        if depth == 0 then none else inner? fuel (depth - 1) [] rest
      else do
        let n := scalarLength text
        return (← Scalar.read? (text.take n), text.drop n)

def items? : Nat → Nat → List Value → Text → Option (Value × Text)
  | 0, _, _, _ => none
  | fuel + 1, depth, found, text => do
    match ← skip? text with
    | ']' :: rest => some (.array false found.reverse, rest)
    | text =>
      let (value, rest) ← value? fuel depth text
      match ← skip? rest with
      | ',' :: rest => items? fuel depth (value :: found) rest
      | ']' :: rest => some (.array false (value :: found).reverse, rest)
      | _ => none

def inner? : Nat → Nat → List Pair → Text → Option (Value × Text)
  | 0, _, _, _ => none
  | fuel + 1, depth, found, text => do
    match ← skip? text with
    | '\x7d' :: rest => return (← Value.ofPairs? found.reverse, rest)
    | text =>
      match ← key? (text.length + 1) [] text with
      | (key, '=' :: rest) =>
        let (value, rest) ← value? fuel depth (dropSpaces rest)
        let found := ⟨key, value⟩ :: found
        match ← skip? rest with
        | ',' :: rest => inner? fuel depth found rest
        | '\x7d' :: rest => return (← Value.ofPairs? found.reverse, rest)
        | _ => none
      | _ => none

end

def pair? (text : Text) : Option (Pair × Text) := do
  match ← key? (text.length + 1) [] text with
  | (key, '=' :: rest) =>
    let rest := dropSpaces rest
    let (value, rest) ← value? (rest.length + 1) depthLimit rest
    return (⟨key, value⟩, ← lineEnd? rest)
  | _ => none

def pairs? : Nat → List Pair → Text → Option (List Pair × Text)
  | 0, _, _ => none
  | fuel + 1, found, text => do
    match ← skip? text with
    | [] => some (found.reverse, [])
    | '[' :: rest => some (found.reverse, '[' :: rest)
    | text =>
      let (pair, rest) ← pair? text
      pairs? fuel (pair :: found) rest

def header? (text : Text) : Option (Bool × List Text × Text) := do
  match text with
  | '[' :: rest =>
    match ← key? (rest.length + 1) [] rest with
    | (path, ']' :: ']' :: rest) => return (true, path, ← lineEnd? rest)
    | _ => none
  | rest =>
    match ← key? (rest.length + 1) [] rest with
    | (path, ']' :: rest) => return (false, path, ← lineEnd? rest)
    | _ => none

def sections? : Nat → List Section → Text → Option (List Section)
  | 0, _, _ => none
  | _ + 1, found, [] => some found.reverse
  | fuel + 1, found, _ :: rest => do
    let (ofArray, path, rest) ← header? rest
    let (pairs, rest) ← pairs? (rest.length + 1) [] rest
    sections? fuel (⟨ofArray, path, pairs⟩ :: found) rest

def dropMark : Text → Text
  | [] => []
  | c :: rest => if c.toNat == 0xFEFF then rest else c :: rest

end Document

open Document in
def read? (text : Text) : Option Value := do
  let text := dropMark text
  let (pairs, rest) ← pairs? (text.length + 1) [] text
  let sections ← sections? (rest.length + 1) [] rest
  return .table .header (← document? pairs sections)

end SnippetReview.Toml
