import SnippetReview.Toml.Value

namespace SnippetReview.Toml.Scalar

def digits? (isDigit : Char → Bool) : Text → Option Text
  | [] => none
  | [c] => if isDigit c then some [c] else none
  | c :: '_' :: rest => if isDigit c then do return c :: (← digits? isDigit rest) else none
  | c :: rest => if isDigit c then do return c :: (← digits? isDigit rest) else none

def digitValue (c : Char) : Nat :=
  if c.isDigit then c.toNat - '0'.toNat
  else if c.isLower then c.toNat - 'a'.toNat + 10
  else c.toNat - 'A'.toNat + 10

def valueOf (base : Nat) (digits : Text) : Nat :=
  digits.foldl (fun n c => n * base + digitValue c) 0

def isDigitIn (base : Nat) (c : Char) : Bool :=
  c.isAlphanum && digitValue c < base

def natIn? (base : Nat) (text : Text) : Option Nat := do
  return valueOf base (← digits? (isDigitIn base) text)

def decimal? (text : Text) : Option Nat :=
  match text with
  | '0' :: _ :: _ => none
  | _ => natIn? 10 text

def signed (text : Text) : Bool × Text :=
  match text with
  | '-' :: rest => (true, rest)
  | '+' :: rest => (false, rest)
  | _ => (false, text)

def bounded? (n : Int) : Option Value :=
  let bound : Int := Nat.pow 2 127
  if -bound ≤ n ∧ n < 2 * bound then some (.integer n) else none

def integer? (text : Text) : Option Value :=
  match text with
  | '0' :: 'x' :: rest => (natIn? 16 rest).bind fun n => bounded? n
  | '0' :: 'o' :: rest => (natIn? 8 rest).bind fun n => bounded? n
  | '0' :: 'b' :: rest => (natIn? 2 rest).bind fun n => bounded? n
  | _ =>
    let (negative, rest) := signed text
    (decimal? rest).bind fun n => bounded? (if negative then -(n : Int) else n)

/-- A decimal that rounds to no finite double: its value is `m` times 10 to the power `e`. -/
def overflows (m : Nat) (e : Int) : Bool :=
  let count := (Text.ofNat m).length
  if m == 0 || e + count ≤ 308 then false
  else if 310 ≤ e + count then true
  else
    let bound := (Nat.pow 2 54 - 1) * Nat.pow 2 970
    if 0 ≤ e then bound ≤ m * Nat.pow 10 e.toNat else bound * Nat.pow 10 (-e).toNat ≤ m

def exponent? (text : Text) : Option Int := do
  let (negative, rest) := signed text
  let n ← natIn? 10 rest
  return if negative then -(n : Int) else n

def decimalFloat? (text : Text) : Option Unit := do
  let isMark (c : Char) : Bool := c == 'e' || c == 'E'
  let mantissa := text.takeWhile (!isMark ·)
  let power := text.dropWhile (!isMark ·)
  let whole := mantissa.takeWhile (· != '.')
  let fraction := mantissa.dropWhile (· != '.')
  let _ ← decimal? whole
  let fraction ←
    match fraction with
    | [] => if power.isEmpty then none else some []
    | _ :: rest => digits? Char.isDigit rest
  let e ←
    match power with
    | [] => some 0
    | _ :: rest => exponent? rest
  let digits := whole.filter (· != '_') ++ fraction
  if overflows (valueOf 10 digits) (e - fraction.length) then none else some ()

def float? (text : Text) : Option Value :=
  let (_, rest) := signed text
  if rest == ['i', 'n', 'f'] || rest == ['n', 'a', 'n'] then some (.float text)
  else (decimalFloat? rest).map fun _ => .float text

def twoDigits? : Text → Option (Nat × Text)
  | a :: b :: rest =>
    if a.isDigit && b.isDigit then some (digitValue a * 10 + digitValue b, rest) else none
  | _ => none

def expect? (c : Char) : Text → Option Text
  | d :: rest => if c == d then some rest else none
  | [] => none

def isLeapYear (y : Nat) : Bool :=
  y % 4 == 0 && (y % 100 != 0 || y % 400 == 0)

def daysIn (y m : Nat) : Nat :=
  if m == 2 then (if isLeapYear y then 29 else 28)
  else if m == 4 || m == 6 || m == 9 || m == 11 then 30
  else 31

def afterDate? (text : Text) : Option Text := do
  let (century, rest) ← twoDigits? text
  let (year, rest) ← twoDigits? rest
  let (month, rest) ← twoDigits? (← expect? '-' rest)
  let (day, rest) ← twoDigits? (← expect? '-' rest)
  let inYear := 1 ≤ month && month ≤ 12
  if inYear && 1 ≤ day && day ≤ daysIn (century * 100 + year) month then some rest else none

def afterSeconds? (text : Text) : Option Text := do
  let (second, rest) ← twoDigits? text
  if 60 < second then none
  match rest with
  | '.' :: c :: rest => if c.isDigit then some (rest.dropWhile Char.isDigit) else none
  | '.' :: [] => none
  | rest => some rest

def afterTime? (text : Text) : Option Text := do
  let (hour, rest) ← twoDigits? text
  let (minute, rest) ← twoDigits? (← expect? ':' rest)
  if 23 < hour || 59 < minute then none
  match rest with
  | ':' :: rest => afterSeconds? rest
  | rest => some rest

def isOffset : Text → Bool
  | [] => true
  | ['Z'] => true
  | ['z'] => true
  | c :: rest =>
    (c == '+' || c == '-') &&
      match twoDigits? rest with
      | some (hour, ':' :: rest) =>
        match twoDigits? rest with
        | some (minute, []) => hour ≤ 23 && minute ≤ 59
        | _ => false
      | _ => false

def isTime (text : Text) : Bool :=
  afterTime? text == some []

def isDatetime (text : Text) : Bool :=
  isTime text ||
    match afterDate? text with
    | none => false
    | some [] => true
    | some (c :: rest) =>
      (c == 'T' || c == 't' || c == ' ') &&
        match afterTime? rest with
        | some rest => isOffset rest
        | none => false

def read? (text : Text) : Option Value :=
  if text == "true".toList then some (.boolean true)
  else if text == "false".toList then some (.boolean false)
  else if isDatetime text then some (.datetime text)
  else (integer? text).orElse fun _ => float? text

end SnippetReview.Toml.Scalar
