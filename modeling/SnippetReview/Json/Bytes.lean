import SnippetReview.Json.Reader
import SnippetReview.Utf8

namespace SnippetReview.Json

def undecodable : Text :=
  "\\ud800".toList

def Token.ofBytes : Token → Token
  | quoted bytes =>
    quoted ((Utf8.decode? (bytes.map fun c => UInt8.ofNat c.toNat)).getD undecodable)
  | token => token

def readBytes? (bytes : List UInt8) : Option Json :=
  match Utf8.decode? bytes with
  | some text => read? text
  | none => do
    let tokens ← Token.scan? (bytes.map fun b => Char.ofNat b.toNat)
    ofTokens? (tokens.map Token.ofBytes)

end SnippetReview.Json
