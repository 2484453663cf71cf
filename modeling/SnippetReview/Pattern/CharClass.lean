import SnippetReview.Text
import SnippetReview.Unicode.Case
import SnippetReview.Unicode.Word

namespace SnippetReview.Pattern

open Unicode

inductive CharClass where
  | never
  | range (first last : Char)
  | word
  | digit
  | blank
  | table (ranges : Ranges)
  | union (s t : CharClass)
  | inter (s t : CharClass)
  | compl (s : CharClass)
  | anyCase (s : CharClass)
  /-- As `anyCase`, but only ASCII letters have another case. -/
  | anyAsciiCase (s : CharClass)
  deriving DecidableEq

namespace CharClass

def asciiVariants (c : Char) : List Char :=
  if c.isUpper then [c, c.toLower] else if c.isLower then [c, c.toUpper] else [c]

def contains : CharClass → Char → Bool
  | never, _ => false
  | range first last, c => first ≤ c && c ≤ last
  | word, c => isWord c
  | digit, c => isDigit c
  | blank, c => Text.isBlank c
  | table ranges, c => ranges.contains c
  | union s t, c => s.contains c || t.contains c
  | inter s t, c => s.contains c && t.contains c
  | compl s, c => !s.contains c
  | anyCase s, c => (caseVariants c).any fun d => s.contains d
  | anyAsciiCase s, c => (asciiVariants c).any fun d => s.contains d

def single (c : Char) : CharClass :=
  range c c

def asciiWord : CharClass :=
  union (range '0' '9') (union (range 'A' 'Z') (union (single '_') (range 'a' 'z')))

def asciiDigit : CharClass :=
  range '0' '9'

def asciiBlank : CharClass :=
  union (range '\t' '\r') (single ' ')

def any : CharClass :=
  compl never

def diff (s t : CharClass) : CharClass :=
  inter s (compl t)

def symmDiff (s t : CharClass) : CharClass :=
  union (diff s t) (diff t s)

/-- No character beyond ASCII is in the class, as far as the first block beyond it tells. -/
def isAscii (s : CharClass) : Bool :=
  (List.range 0x80).all fun n => !s.contains (Char.ofNat (0x80 + n))

/-- Bytes that a compiled class takes, in round figures. -/
def cost : CharClass → Nat
  | never => 24
  | range _ last => if last.toNat < 0x80 then 32 else 160
  | word => 20000
  | digit => 4000
  | blank => 400
  | table ranges => 26 * ranges.size + 24
  | union s t => s.cost + t.cost
  | inter s t => s.cost + t.cost
  | compl s => s.cost + 200
  | anyCase s => 2 * s.cost
  | anyAsciiCase s => 2 * s.cost

end CharClass

end SnippetReview.Pattern
