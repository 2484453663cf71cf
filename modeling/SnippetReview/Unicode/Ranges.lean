namespace SnippetReview.Unicode

abbrev Ranges := Array (Nat × Nat)

namespace Ranges

def search (table : Ranges) (n : Nat) : Nat → Nat → Nat → Bool
  | 0, _, _ => false
  | fuel + 1, lo, hi =>
    if lo < hi then
      let mid := (lo + hi) / 2
      match table[mid]? with
      | none => false
      | some (first, last) =>
        if n < first then search table n fuel lo mid
        else if last < n then search table n fuel (mid + 1) hi
        else true
    else false

def contains (table : Ranges) (c : Char) : Bool :=
  table.search c.toNat table.size 0 table.size

end Ranges

end SnippetReview.Unicode
