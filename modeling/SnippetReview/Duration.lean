import SnippetReview.Text

namespace SnippetReview

structure Duration where
  nanos : Nat
  deriving DecidableEq, Repr

namespace Duration

instance : LE Duration :=
  ⟨fun d e => d.nanos ≤ e.nanos⟩

instance (d e : Duration) : Decidable (d ≤ e) :=
  inferInstanceAs (Decidable (d.nanos ≤ e.nanos))

def ofMillis (n : Nat) : Duration :=
  ⟨n * 1000000⟩

def ofSecs (n : Nat) : Duration :=
  ⟨n * 1000000000⟩

def fraction (places n : Nat) : Text :=
  let digits := Text.ofNat n
  let padded := List.replicate (places - digits.length) '0' ++ digits
  (padded.reverse.dropWhile (· == '0')).reverse

def inUnit (places nanos : Nat) (unit : Text) : Text :=
  let size := Nat.pow 10 places
  let part := fraction places (nanos % size)
  Text.ofNat (nanos / size) ++ (if part.isEmpty then [] else '.' :: part) ++ unit

def text (d : Duration) : Text :=
  if 1000000000 ≤ d.nanos then inUnit 9 d.nanos ['s']
  else if 1000000 ≤ d.nanos then inUnit 6 d.nanos ['m', 's']
  else if 1000 ≤ d.nanos then inUnit 3 d.nanos ['µ', 's']
  else inUnit 0 d.nanos ['n', 's']

end Duration

end SnippetReview
