import SnippetReview.Address
import SnippetReview.Utf8

namespace SnippetReview

inductive Url.Path where
  | plain (text : Text)
  | segments (segments : List Text)
  deriving DecidableEq, Repr

structure Url where
  scheme : Text
  user : Text := []
  password : Text := []
  host : Option Text := none
  port : Option Nat := none
  path : Url.Path
  query : Option Text := none
  fragment : Option Text := none
  deriving DecidableEq, Repr

namespace Url

/-! ### Escapes -/

def hexDigit (n : Nat) : Char :=
  if n < 10 then Char.ofNat ('0'.toNat + n) else Char.ofNat ('A'.toNat + (n - 10))

def escapeByte (b : UInt8) : Text :=
  ['%', hexDigit (b.toNat / 16), hexDigit (b.toNat % 16)]

def escape (marked : Char → Bool) (text : Text) : Text :=
  text.flatMap fun c =>
    if c.toNat < 0x20 || 0x7E < c.toNat || marked c then
      (String.utf8EncodeChar c).flatMap escapeByte
    else [c]

def inFragment (c : Char) : Bool :=
  c == ' ' || c == '"' || c == '<' || c == '>' || c == '\x60'

def inPath (c : Char) : Bool :=
  inFragment c || c == '#' || c == '?' || c == '\x7b' || c == '\x7d'

def inUser (c : Char) : Bool :=
  inPath c || "/:;=@[\\]^|".toList.contains c

def inQuery (special : Bool) (c : Char) : Bool :=
  c == ' ' || c == '"' || c == '#' || c == '<' || c == '>' || (special && c == '\'')

def unescape : Text → List UInt8
  | [] => []
  | '%' :: a :: b :: rest =>
    match Text.hexValue? a, Text.hexValue? b with
    | some m, some n => UInt8.ofNat (m * 16 + n) :: unescape rest
    | _, _ => '%'.toUInt8 :: unescape (a :: b :: rest)
  | c :: rest => String.utf8EncodeChar c ++ unescape rest

/-! ### Schemes -/

def specialSchemes : List (String × Option Nat) := [
  ("http", some 80), ("https", some 443), ("ws", some 80), ("wss", some 443), ("ftp", some 21),
  ("file", none)]

def isSpecial (scheme : Text) : Bool :=
  specialSchemes.any fun s => s.1.toList == scheme

def isFile (scheme : Text) : Bool :=
  scheme == "file".toList

def defaultPort? (scheme : Text) : Option Nat :=
  (specialSchemes.find? fun s => s.1.toList == scheme).bind Prod.snd

def scheme? (text : Text) : Option (Text × Text) :=
  let isSchemeChar (c : Char) : Bool := c.isAlphanum || c == '+' || c == '-' || c == '.'
  let name := text.takeWhile isSchemeChar
  match name, text.drop name.length with
  | c :: _, ':' :: rest => if c.isAlpha then some (name.map Char.toLower, rest) else none
  | _, _ => none

/-! ### Hosts -/

def isForbidden (c : Char) : Bool :=
  c.toNat == 0 || "\t\n\r #/:<>?@[\\]^|".toList.contains c

def isForbiddenInDomain (c : Char) : Bool :=
  isForbidden c || c.toNat < 0x20 || c == '%' || c.toNat == 0x7F

def addressPart? (part : Text) : Option Nat :=
  let read (base : Nat) (digits : Text) : Option Nat :=
    digits.foldlM (fun n c => do
      let d ← Text.hexValue? c
      if d < base then some (n * base + d) else none) 0
  match part with
  | [] => none
  | ['0'] => some 0
  | '0' :: c :: rest => if c == 'x' || c == 'X' then read 16 rest else read 8 (c :: rest)
  | _ => read 10 part

def addressParts (host : Text) : List Text :=
  let parts := Text.pieces '.' host
  if parts.getLast? == some [] && 1 < parts.length then parts.dropLast else parts

def endsInNumber (host : Text) : Bool :=
  match (addressParts host).getLast? with
  | none => false
  | some part => (!part.isEmpty && part.all Char.isDigit) || (addressPart? part).isSome

def address? (host : Text) : Option Nat := do
  let numbers ← (addressParts host).mapM addressPart?
  let count := numbers.length
  let last ← numbers.getLast?
  if 4 < count || !numbers.dropLast.all (· ≤ 255) || Nat.pow 256 (5 - count) ≤ last then none
  return numbers.dropLast.zipIdx.foldl (fun n p => n + p.1 * Nat.pow 256 (3 - p.2)) last

def writeAddress (n : Nat) : Text :=
  let byte (i : Nat) : Text := Text.ofNat (n / Nat.pow 256 i % 256)
  byte 3 ++ ['.'] ++ byte 2 ++ ['.'] ++ byte 1 ++ ['.'] ++ byte 0

def domain? (text : Text) : Option Text := do
  let text := (← Utf8.decode? (unescape text)).map Char.toLower
  if text.isEmpty || text.any isForbiddenInDomain || text.any (fun c => 0x80 ≤ c.toNat) then none
  if endsInNumber text then return writeAddress (← address? text) else return text

def opaqueHost? (text : Text) : Option Text :=
  if text.any isForbidden then none else some (escape (fun _ => false) text)

def host? (scheme text : Text) : Option Text :=
  match text with
  | '[' :: rest =>
    match rest.reverse with
    | ']' :: inner => do return ['['] ++ Address.writeLong (← Address.long? inner.reverse) ++ [']']
    | _ => none
  | _ => if isSpecial scheme then domain? text else opaqueHost? text

/-! ### Paths -/

def isSlash (special : Bool) (c : Char) : Bool :=
  c == '/' || (special && c == '\\')

def isDot (segment : Text) : Bool :=
  segment == ['.'] || segment.map Char.toLower == ['%', '2', 'e']

def isDoubleDot (segment : Text) : Bool :=
  ["..", ".%2e", "%2e.", "%2e%2e"].any fun s => s.toList == segment.map Char.toLower

def isDrive : Text → Bool
  | [c, d] => c.isAlpha && (d == ':' || d == '|')
  | _ => false

def shorten (file : Bool) (path : List Text) : List Text :=
  match path with
  | [segment] => if file && isDrive segment then path else []
  | path => path.dropLast

def addSegment (file : Bool) (path : List Text) (segment : Text) (isLast : Bool) : List Text :=
  if isDoubleDot segment then
    let path := shorten file path
    if isLast then path ++ [[]] else path
  else if isDot segment then (if isLast then path ++ [[]] else path)
  else
    match segment with
    | [c, '|'] =>
      if file && path.isEmpty && c.isAlpha then path ++ [[c, ':']]
      else path ++ [escape inPath segment]
    | _ => path ++ [escape inPath segment]

def segmentsFrom (file special : Bool) (path : List Text) (segment : Text) : Text → List Text
  | [] => addSegment file path segment.reverse true
  | c :: rest =>
    if isSlash special c then
      segmentsFrom file special (addSegment file path segment.reverse false) [] rest
    else segmentsFrom file special path (c :: segment) rest

def readPath (scheme text : Text) : List Text :=
  let special := isSpecial scheme
  let read := segmentsFrom (isFile scheme) special [] []
  match text with
  | [] => if special then [[]] else []
  | c :: rest => if isSlash special c then read rest else read text

/-! ### The whole -/

def port? (scheme digits : Text) : Option (Option Nat) :=
  if digits.isEmpty then some none
  else if digits.all Char.isDigit then
    let n := Text.decimalValue digits
    if n < 65536 then some (if defaultPort? scheme == some n then none else some n) else none
  else none

def hostAndPort? (scheme text : Text) : Option (Text × Option Nat) := do
  let digits := (text.reverse.takeWhile fun c => c != ':' && c != ']').reverse
  let before := text.take (text.length - digits.length)
  match before.reverse with
  | ':' :: host =>
    let host := host.reverse
    if host.isEmpty then none
    return (← host? scheme host, ← port? scheme digits)
  | _ => return (← host? scheme text, none)

def splitUser (text : Text) : Option (Text × Text) × Text :=
  let after := (text.reverse.takeWhile (· != '@')).reverse
  if after.length == text.length then (none, text)
  else
    let info := text.take (text.length - after.length - 1)
    let user := info.takeWhile (· != ':')
    (some (user, (info.drop user.length).drop 1), after)

def splitTail (text : Text) : Text × Option Text × Option Text :=
  let body := text.takeWhile (· != '#')
  let fragment :=
    match text.drop body.length with
    | _ :: rest => some rest
    | [] => none
  let path := body.takeWhile (· != '?')
  let query :=
    match body.drop path.length with
    | _ :: rest => some rest
    | [] => none
  (path, query, fragment)

def withAuthority? (scheme text : Text) : Option Url := do
  let authority := text.takeWhile fun c => !isSlash (isSpecial scheme) c
  let path := .segments (readPath scheme (text.drop authority.length))
  let (info, rest) := splitUser authority
  match info with
  | none =>
    if rest.isEmpty && !isSpecial scheme then
      return { scheme := scheme, host := some [], path := path }
    let (host, port) ← hostAndPort? scheme rest
    return { scheme := scheme, host := some host, port := port, path := path }
  | some (user, password) =>
    if rest.isEmpty then none
    let (host, port) ← hostAndPort? scheme rest
    return {
      scheme := scheme, user := escape inUser user, password := escape inUser password,
      host := some host, port := port, path := path }

/-- A locator of a file, given the text after its scheme. This computer is the empty host. -/
def file? (scheme text : Text) : Option Url := do
  match text with
  | a :: b :: rest =>
    if isSlash true a && isSlash true b then
      let name := rest.takeWhile fun c => !isSlash true c
      if isDrive name then
        return { scheme := scheme, host := some [], path := .segments (readPath scheme rest) }
      let path := .segments (readPath scheme (rest.drop name.length))
      if name.isEmpty then return { scheme := scheme, host := some [], path := path }
      let host ← host? scheme name
      let host := if host == "localhost".toList then [] else host
      return { scheme := scheme, host := some host, path := path }
    else return { scheme := scheme, host := some [], path := .segments (readPath scheme text) }
  | _ => return { scheme := scheme, host := some [], path := .segments (readPath scheme text) }

def clean (text : Text) : Text :=
  let text := text.dropWhile fun c => c.toNat ≤ 0x20
  let text := (text.reverse.dropWhile fun c => c.toNat ≤ 0x20).reverse
  text.filter fun c => c != '\t' && c != '\n' && c != '\r'

def read? (text : Text) : Option Url := do
  let (scheme, rest) ← scheme? (clean text)
  let (body, query, fragment) := splitTail rest
  let special := isSpecial scheme
  let url ←
    if isFile scheme then file? scheme body
    else if special then withAuthority? scheme (body.dropWhile (isSlash true))
    else
      match body with
      | '/' :: '/' :: rest => withAuthority? scheme rest
      | '/' :: _ => some { scheme := scheme, path := .segments (readPath scheme body) }
      | _ => some { scheme := scheme, path := .plain (escape (fun _ => false) body) }
  return { url with
    query := query.map (escape (inQuery special))
    fragment := fragment.map (escape inFragment) }

/-! ### Writing -/

def Path.text : Path → Text
  | plain text => text
  | segments list => list.flatMap fun s => '/' :: s

def target (url : Url) : Text :=
  url.path.text ++ url.query.elim [] fun q => '?' :: q

def authority (url : Url) : Text :=
  let password := if url.password.isEmpty then [] else ':' :: url.password
  let info := if url.user.isEmpty && url.password.isEmpty then [] else url.user ++ password ++ ['@']
  info ++ url.host.getD [] ++ url.port.elim [] fun p => ':' :: Text.ofNat p

def guard (path : Path) : Text :=
  match path with
  | .segments ([] :: _ :: _) => ['/', '.']
  | _ => []

def text (url : Url) : Text :=
  let place :=
    match url.host with
    | some _ => ['/', '/'] ++ url.authority
    | none => guard url.path
  url.scheme ++ [':'] ++ place ++ url.target ++ url.fragment.elim [] fun f => '#' :: f

def normalize? (text : Text) : Option Text :=
  (read? text).map Url.text

end Url

end SnippetReview
