namespace SnippetReview

abbrev Text := List Char

namespace Text

-- The property White_Space.
def isBlank (c : Char) : Bool :=
  let n := c.toNat
  n == 0x20 || (0x09 ≤ n && n ≤ 0x0D) || n == 0x85 || n == 0xA0 || n == 0x1680 ||
    (0x2000 ≤ n && n ≤ 0x200A) || n == 0x2028 || n == 0x2029 || n == 0x202F || n == 0x205F ||
    n == 0x3000

def trimLeft (text : Text) : Text :=
  text.dropWhile isBlank

def trimRight (text : Text) : Text :=
  (text.reverse.dropWhile isBlank).reverse

def trim (text : Text) : Text :=
  trimRight (trimLeft text)

def closeLine : Text → Text
  | '\r' :: line => line.reverse
  | line => line.reverse

def linesFrom (done : List Text) (line : Text) : Text → List Text
  | [] => if line.isEmpty then done.reverse else (line.reverse :: done).reverse
  | c :: rest =>
    if c == '\n' then linesFrom (closeLine line :: done) [] rest
    else linesFrom done (c :: line) rest

/-- The pieces between newlines; an empty piece after the last newline does not count. -/
def lines (text : Text) : List Text :=
  linesFrom [] [] text

def units16 (c : Char) : Nat :=
  if c.toNat < 0x10000 then 1 else 2

def length16 (text : Text) : Nat :=
  text.foldl (fun n c => n + units16 c) 0

def substituteFrom (name value : Text) : Nat → Text → Text
  | _, [] => []
  | skip + 1, _ :: rest => substituteFrom name value skip rest
  | 0, c :: rest =>
    if name.isPrefixOf (c :: rest) then
      value ++ substituteFrom name value (name.length - 1) rest
    else c :: substituteFrom name value 0 rest

def substitute (name value text : Text) : Text :=
  substituteFrom name value 0 text

def pieces (separator : Char) (text : Text) : List Text :=
  text.foldr (fun c found =>
    if c == separator then [] :: found
    else
      match found with
      | piece :: rest => (c :: piece) :: rest
      | [] => [[c]]) [[]]

def hexValue? (c : Char) : Option Nat :=
  if c.isDigit then some (c.toNat - '0'.toNat)
  else if 'a' ≤ c && c ≤ 'f' then some (c.toNat - 'a'.toNat + 10)
  else if 'A' ≤ c && c ≤ 'F' then some (c.toNat - 'A'.toNat + 10)
  else none

def decimalValue (digits : Text) : Nat :=
  digits.foldl (fun n c => n * 10 + (c.toNat - '0'.toNat)) 0

def ofNat (n : Nat) : Text :=
  Nat.toDigits 10 n

end Text

end SnippetReview
