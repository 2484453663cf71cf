import SnippetReview.Text

namespace SnippetReview.Json.Quoted

def hexDigit (n : Nat) : Char :=
  if n < 10 then Char.ofNat ('0'.toNat + n) else Char.ofNat ('a'.toNat + (n - 10))

def escapeChar (c : Char) : Text :=
  if c = '"' then ['\\', '"']
  else if c = '\\' then ['\\', '\\']
  else if c = '\x08' then ['\\', 'b']
  else if c = '\t' then ['\\', 't']
  else if c = '\n' then ['\\', 'n']
  else if c = '\x0c' then ['\\', 'f']
  else if c = '\r' then ['\\', 'r']
  else if c.toNat < 0x20 then
    ['\\', 'u', '0', '0', hexDigit (c.toNat / 16), hexDigit (c.toNat % 16)]
  else [c]

def escape (text : Text) : Text :=
  text.flatMap escapeChar

def codeUnit? (a b c d : Char) : Option Nat :=
  [a, b, c, d].foldlM (fun n c => (Text.hexValue? c).map fun d => n * 16 + d) 0

def unescape? (c : Char) : Option Char :=
  if c = '"' || c = '\\' || c = '/' then some c
  else if c = 'b' then some '\x08'
  else if c = 't' then some '\t'
  else if c = 'n' then some '\n'
  else if c = 'f' then some '\x0c'
  else if c = 'r' then some '\r'
  else none

/-- The codes of a written text after those found: a code for each character, and one for each
escape, which may be half of a surrogate pair. -/
def codesFrom (found : List Nat) : Text → Option (List Nat)
  | [] => some found.reverse
  | '\\' :: 'u' :: a :: b :: c :: d :: rest =>
    match codeUnit? a b c d with
    | some n => codesFrom (n :: found) rest
    | none => none
  | '\\' :: c :: rest =>
    match unescape? c with
    | some d => codesFrom (d.toNat :: found) rest
    | none => none
  | c :: rest => if c = '\\' then none else codesFrom (c.toNat :: found) rest

def isHighHalf (n : Nat) : Bool :=
  0xD800 ≤ n && n < 0xDC00

def isLowHalf (n : Nat) : Bool :=
  0xDC00 ≤ n && n < 0xE000

def joinFrom (found : Text) : List Nat → Option Text
  | [] => some found.reverse
  | [n] => if isHighHalf n || isLowHalf n then none else some (Char.ofNat n :: found).reverse
  | n :: m :: rest =>
    if isHighHalf n then
      if isLowHalf m then
        joinFrom (Char.ofNat (0x10000 + (n - 0xD800) * 0x400 + (m - 0xDC00)) :: found) rest
      else none
    else if isLowHalf n then none
    else joinFrom (Char.ofNat n :: found) (m :: rest)

def decode (written : Text) : Option Text :=
  (codesFrom [] written).bind (joinFrom [])

end SnippetReview.Json.Quoted
