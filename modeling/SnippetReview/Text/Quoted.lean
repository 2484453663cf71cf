import SnippetReview.Text
import SnippetReview.Unicode.Category

namespace SnippetReview.Text

def invisible : List Unicode.Ranges := [
  Unicode.Category.control,
  Unicode.Category.format,
  Unicode.Category.privateUse,
  Unicode.Category.unassigned,
  Unicode.Category.spaceSeparator,
  Unicode.Category.lineSeparator,
  Unicode.Category.paragraphSeparator,
  Unicode.Category.graphemeExtend]

def isInvisible (c : Char) : Bool :=
  c != ' ' && invisible.any fun table => table.contains c

def quoteChar (c : Char) : Text :=
  match c with
  | '"' => ['\\', '"']
  | '\\' => ['\\', '\\']
  | '\t' => ['\\', 't']
  | '\n' => ['\\', 'n']
  | '\r' => ['\\', 'r']
  | '\x00' => ['\\', '0']
  | _ =>
    if isInvisible c then ['\\', 'u', '\x7b'] ++ Nat.toDigits 16 c.toNat ++ ['\x7d'] else [c]

def quoted (text : Text) : Text :=
  '"' :: text.flatMap quoteChar ++ ['"']

end SnippetReview.Text
