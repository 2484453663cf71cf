import SnippetReview.Json.Value

/-!
Reading JSON: a text is split into tokens, and the tokens are put together by a machine whose stack
holds the arrays and objects that are still open.
-/

namespace SnippetReview.Json

inductive Token where
  | openBracket
  | closeBracket
  | openBrace
  | closeBrace
  | colon
  | comma
  | scalar (value : Json)
  | quoted (written : Text)

namespace Token

def isNumberTail (text : Text) : Bool :=
  let digits (text : Text) : Bool := !text.isEmpty && text.all Char.isDigit
  let isMark (c : Char) : Bool := c == 'e' || c == 'E'
  let fraction := text.takeWhile fun c => !isMark c
  let power := text.dropWhile fun c => !isMark c
  (match fraction with
    | [] => true
    | c :: rest => c == '.' && digits rest) &&
  match power with
  | [] => true
  | _ :: '+' :: rest => digits rest
  | _ :: '-' :: rest => digits rest
  | _ :: rest => digits rest

def isNumber (text : Text) : Bool :=
  let text :=
    match text with
    | '-' :: rest => rest
    | _ => text
  match text with
  | '0' :: rest => isNumberTail rest
  | c :: rest => c.isDigit && isNumberTail (rest.dropWhile Char.isDigit)
  | [] => false

def ofWord? (word : Text) : Option Token :=
  if word = "null".toList then some (scalar null)
  else if word = "true".toList then some (scalar (bool true))
  else if word = "false".toList then some (scalar (bool false))
  else if isNumber word then some (scalar (number word))
  else none

def ofMark? (c : Char) : Option Token :=
  if c = '[' then some openBracket
  else if c = ']' then some closeBracket
  else if c = '\x7b' then some openBrace
  else if c = '\x7d' then some closeBrace
  else if c = ':' then some colon
  else if c = ',' then some comma
  else none

def isSpace (c : Char) : Bool :=
  c = ' ' || c = '\t' || c = '\n' || c = '\r'

def isWordChar (c : Char) : Bool :=
  c.isAlphanum || c = '+' || c = '-' || c = '.'

inductive Cut where
  | between
  | word (chars : Text)
  | string (chars : Text)
  | escape (chars : Text)
  /-- After the mark of a code, with so many digits to come. -/
  | code (digits : Nat) (chars : Text)

abbrev Scan := List Token × Cut

def begin? (found : List Token) (c : Char) : Option Scan :=
  if isSpace c then some (found, .between)
  else if c = '"' then some (found, .string [])
  else if isWordChar c then some (found, .word [c])
  else (ofMark? c).map fun token => (token :: found, .between)

def next? : Scan → Char → Option Scan
  | (found, .between), c => begin? found c
  | (found, .word chars), c =>
    if isWordChar c then some (found, .word (c :: chars))
    else
      match ofWord? chars.reverse with
      | some token => begin? (token :: found) c
      | none => none
  | (found, .string chars), c =>
    if c = '"' then some (quoted chars.reverse :: found, .between)
    else if c = '\\' then some (found, .escape (c :: chars))
    else if c.toNat < 0x20 then none
    else some (found, .string (c :: chars))
  | (found, .escape chars), c =>
    if c = 'u' then some (found, .code 4 (c :: chars))
    else if (Quoted.unescape? c).isSome then some (found, .string (c :: chars))
    else none
  | (found, .code digits chars), c =>
    if (Text.hexValue? c).isNone then none
    else if digits ≤ 1 then some (found, .string (c :: chars))
    else some (found, .code (digits - 1) (c :: chars))

def finish? : Scan → Option (List Token)
  | (found, .between) => some found.reverse
  | (found, .word chars) => (ofWord? chars.reverse).map fun token => (token :: found).reverse
  | _ => none

def scan? (text : Text) : Option (List Token) :=
  (text.foldlM next? ([], .between)).bind finish?

end Token

inductive Frame where
  | array (items : List Json)
  | object (members : List (Text × Json)) (key : Text)

inductive Stage where
  | value (outer : List Frame)
  | item (outer : List Frame)
  /-- After an opening brace. -/
  | member (outer : List Frame)
  | key (members : List (Text × Json)) (outer : List Frame)
  | colon (key : Text) (members : List (Text × Json)) (outer : List Frame)
  | done (value : Json) (outer : List Frame)

namespace Stage

def begin? (outer : List Frame) : Token → Option Stage
  | .openBracket => some (item outer)
  | .openBrace => some (member outer)
  | .scalar v => some (done v outer)
  | .quoted written => some (done (.string written) outer)
  | _ => none

def next? : Stage → Token → Option Stage
  | value outer, token => begin? outer token
  | item outer, .closeBracket => some (done (.array []) outer)
  | item outer, token => begin? (.array [] :: outer) token
  | member outer, .closeBrace => some (done (.object []) outer)
  | member outer, .quoted name => some (colon name [] outer)
  | key members outer, .quoted name => some (colon name members outer)
  | colon name members outer, .colon => some (value (.object members name :: outer))
  | done v (.array items :: outer), .comma => some (value (.array (v :: items) :: outer))
  | done v (.array items :: outer), .closeBracket =>
    some (done (.array (v :: items).reverse) outer)
  | done v (.object members name :: outer), .comma => some (key ((name, v) :: members) outer)
  | done v (.object members name :: outer), .closeBrace =>
    some (done (.object ((name, v) :: members).reverse) outer)
  | _, _ => none

def finish? : Stage → Option Json
  | done v [] => some v
  | _ => none

end Stage

def ofTokens? (tokens : List Token) : Option Json :=
  (tokens.foldlM Stage.next? (.value [])).bind Stage.finish?

def read? (text : Text) : Option Json :=
  (Token.scan? text).bind ofTokens?

end SnippetReview.Json
