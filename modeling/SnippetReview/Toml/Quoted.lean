import SnippetReview.Text

namespace SnippetReview.Toml.Quoted

def isPlain (c : Char) : Bool :=
  c == '\t' || (0x20 ≤ c.toNat && c.toNat != 0x7F)

def isSpace (c : Char) : Bool :=
  c == ' ' || c == '\t'

def newline? : Text → Option Text
  | '\n' :: rest => some rest
  | '\r' :: '\n' :: rest => some rest
  | _ => none

def hex? : Nat → Nat → Text → Option (Nat × Text)
  | 0, n, rest => some (n, rest)
  | _ + 1, _, [] => none
  | count + 1, n, c :: rest => do hex? count (n * 16 + (← Text.hexValue? c)) rest

def coded? (count : Nat) (text : Text) : Option (Char × Text) := do
  let (n, rest) ← hex? count 0 text
  if h : n.isValidChar then some (Char.ofNatAux n h, rest) else none

def escape? : Text → Option (Char × Text)
  | [] => none
  | c :: rest =>
    match c with
    | 'b' => some ('\x08', rest)
    | 't' => some ('\t', rest)
    | 'n' => some ('\n', rest)
    | 'f' => some ('\x0c', rest)
    | 'r' => some ('\r', rest)
    | 'e' => some ('\x1b', rest)
    | '"' => some ('"', rest)
    | '\\' => some ('\\', rest)
    | 'x' => coded? 2 rest
    | 'u' => coded? 4 rest
    | 'U' => coded? 8 rest
    | _ => none

def oneLine? (quote : Char) : Nat → Text → Text → Option (Text × Text)
  | 0, _, _ => none
  | _ + 1, _, [] => none
  | fuel + 1, out, c :: rest =>
    if c == quote then some (out.reverse, rest)
    else if c == '\\' && quote == '"' then do
      let (d, rest) ← escape? rest
      oneLine? quote fuel (d :: out) rest
    else if isPlain c then oneLine? quote fuel (c :: out) rest
    else none

def dropSpace : Nat → Text → Text
  | 0, text => text
  | fuel + 1, text =>
    match text with
    | [] => []
    | c :: rest =>
      if isSpace c then dropSpace fuel rest
      else
        match newline? text with
        | some rest => dropSpace fuel rest
        | none => text

def hiddenLineEnd? (text : Text) : Option Text :=
  (newline? (text.dropWhile isSpace)).map fun rest => dropSpace rest.length rest

def quotes (quote : Char) (text : Text) : Nat :=
  ((text.take 5).takeWhile (· == quote)).length

def manyLines? (quote : Char) : Nat → Text → Text → Option (Text × Text)
  | 0, _, _ => none
  | _ + 1, _, [] => none
  | fuel + 1, out, c :: rest =>
    let count := quotes quote (c :: rest)
    if 3 ≤ count then
      some (out.reverse ++ List.replicate (count - 3) quote, (c :: rest).drop count)
    else if c == '\\' && quote == '"' then
      match hiddenLineEnd? rest with
      | some rest => manyLines? quote fuel out rest
      | none => do
        let (d, rest) ← escape? rest
        manyLines? quote fuel (d :: out) rest
    else
      match newline? (c :: rest) with
      | some rest => manyLines? quote fuel ('\n' :: out) rest
      | none => if isPlain c then manyLines? quote fuel (c :: out) rest else none

def short? : Text → Option (Text × Text)
  | [] => none
  | quote :: rest =>
    if quote == '"' || quote == '\'' then oneLine? quote (rest.length + 1) [] rest else none

def string? (text : Text) : Option (Text × Text) :=
  match text with
  | a :: b :: c :: rest =>
    if (a == '"' || a == '\'') && a == b && a == c then
      let body := (newline? rest).getD rest
      manyLines? a (body.length + 1) [] body
    else short? text
  | _ => short? text

end SnippetReview.Toml.Quoted
