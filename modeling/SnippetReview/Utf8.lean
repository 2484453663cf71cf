import SnippetReview.Text

namespace SnippetReview.Utf8

def encode (text : Text) : List UInt8 :=
  text.flatMap String.utf8EncodeChar

def trail? (b : UInt8) : Option Nat :=
  if 0x80 ≤ b.toNat && b.toNat < 0xC0 then some (b.toNat - 0x80) else none

def char? (least n : Nat) : Option Char :=
  if h : n.isValidChar then (if least ≤ n then some (Char.ofNatAux n h) else none) else none

def next? : List UInt8 → Option (Char × List UInt8)
  | [] => none
  | a :: rest =>
    let n := a.toNat
    if n < 0x80 then (char? 0 n).map (·, rest)
    else if n < 0xC0 then none
    else if n < 0xE0 then
      match rest with
      | b :: rest => do
        return (← char? 0x80 ((n - 0xC0) * 0x40 + (← trail? b)), rest)
      | _ => none
    else if n < 0xF0 then
      match rest with
      | b :: c :: rest => do
        return (← char? 0x800 (((n - 0xE0) * 0x40 + (← trail? b)) * 0x40 + (← trail? c)), rest)
      | _ => none
    else if n < 0xF8 then
      match rest with
      | b :: c :: d :: rest => do
        let high := ((n - 0xF0) * 0x40 + (← trail? b)) * 0x40 + (← trail? c)
        return (← char? 0x10000 (high * 0x40 + (← trail? d)), rest)
      | _ => none
    else none

def decodeFrom (found : Text) : Nat → List UInt8 → Option Text
  | _, [] => some found.reverse
  | 0, _ => none
  | fuel + 1, bytes =>
    match next? bytes with
    | some (c, rest) => decodeFrom (c :: found) fuel rest
    | none => none

def decode? (bytes : List UInt8) : Option Text :=
  decodeFrom [] bytes.length bytes

end SnippetReview.Utf8
