import SnippetReview.Address

namespace SnippetReview

inductive Host where
  | short (a b c d : UInt8)
  | long (groups : Vector UInt16 8) (scope : UInt32)
  deriving DecidableEq, Repr

structure SocketAddress where
  host : Host
  port : UInt16
  deriving DecidableEq, Repr

namespace Host

def short? (text : Text) : Option Host := do
  match ← (Text.pieces '.' text).mapM Address.decimalByte? with
  | [a, b, c, d] => some (short (.ofNat a) (.ofNat b) (.ofNat c) (.ofNat d))
  | _ => none

def number? (bound : Nat) (text : Text) : Option Nat :=
  let n := Text.decimalValue text
  if text.isEmpty || !text.all Char.isDigit || bound ≤ n then none else some n

def scope? : Text → Option UInt32
  | [] => some 0
  | _ :: digits => (number? UInt32.size digits).map UInt32.ofNat

def long? (text : Text) : Option Host := do
  let body := text.takeWhile (· != '%')
  let groups := (← Address.long? body).map UInt16.ofNat
  let scope ← scope? (text.drop body.length)
  if h : groups.length = 8 then some (long ⟨groups.toArray, by simp [h]⟩ scope) else none

def writeShort (a b c d : UInt8) : Text :=
  ['.'].intercalate ([a, b, c, d].map fun n => Text.ofNat n.toNat)

def writeGroups : List Nat → Text
  | [0, 0, 0, 0, 0, 0xFFFF, m, n] =>
    "::ffff:".toList ++
      writeShort (.ofNat (m / 256)) (.ofNat (m % 256)) (.ofNat (n / 256)) (.ofNat (n % 256))
  | groups => Address.writeLong groups

def text : Host → Text
  | short a b c d => writeShort a b c d
  | long groups scope =>
    let mark := if scope = 0 then [] else '%' :: Text.ofNat scope.toNat
    '[' :: writeGroups (groups.toList.map UInt16.toNat) ++ mark ++ [']']

end Host

namespace SocketAddress

def host? : Text → Option (Host × Text)
  | '[' :: rest => do
    let body := rest.takeWhile (· != ']')
    return (← Host.long? body, rest.drop (body.length + 1))
  | text => do
    let body := text.takeWhile (· != ':')
    return (← Host.short? body, text.drop body.length)

def read? (text : Text) : Option SocketAddress := do
  match ← host? text with
  | (host, ':' :: digits) => return ⟨host, .ofNat (← Host.number? UInt16.size digits)⟩
  | _ => none

def text (a : SocketAddress) : Text :=
  a.host.text ++ ':' :: Text.ofNat a.port.toNat

def local3000 : SocketAddress :=
  ⟨.short 127 0 0 1, 3000⟩

end SocketAddress

end SnippetReview
