import SnippetReview.Text

namespace SnippetReview.Address

def group? (text : Text) : Option Nat :=
  if text.isEmpty || 4 < text.length then none
  else text.foldlM (fun n c => (Text.hexValue? c).map fun d => n * 16 + d) 0

def decimalByte? (part : Text) : Option Nat :=
  let padded := 1 < part.length && part.head? == some '0'
  if part.isEmpty || !part.all Char.isDigit || padded || 255 < Text.decimalValue part then none
  else some (Text.decimalValue part)

def decimalGroups? (text : Text) : Option (List Nat) := do
  match ← (Text.pieces '.' text).mapM decimalByte? with
  | [a, b, c, d] => some [a * 256 + b, c * 256 + d]
  | _ => none

def groups? : List Text → Option (List Nat)
  | [] => some []
  | [part] => if part.contains '.' then decimalGroups? part else (group? part).map ([·])
  | part :: parts => do return (← group? part) :: (← groups? parts)

def splitDouble? (before : Text) : Text → Option (Text × Text)
  | [] => none
  | ':' :: ':' :: rest => some (before.reverse, rest)
  | c :: rest => splitDouble? (c :: before) rest

def long? (text : Text) : Option (List Nat) := do
  let read (part : Text) : Option (List Nat) :=
    if part.isEmpty then some [] else groups? (Text.pieces ':' part)
  match splitDouble? [] text with
  | some (before, after) =>
    if before.contains '.' then none
    let left ← read before
    let right ← read after
    if 8 ≤ left.length + right.length then none
    return left ++ List.replicate (8 - left.length - right.length) 0 ++ right
  | none =>
    let groups ← read text
    if groups.length == 8 then some groups else none

def zeroRun (groups : List Nat) : Option (Nat × Nat) :=
  let runs := (List.range 8).map fun i => (i, ((groups.drop i).takeWhile (· == 0)).length)
  let best := runs.foldl (fun best run => if best.2 < run.2 then run else best) (0, 1)
  if 1 < best.2 then some best else none

def writeGroup (n : Nat) : Text :=
  (Nat.toDigits 16 n).map Char.toLower

def joinGroups (groups : List Nat) : Text :=
  [':'].intercalate (groups.map writeGroup)

def writeLong (groups : List Nat) : Text :=
  match zeroRun groups with
  | none => joinGroups groups
  | some (start, count) =>
    joinGroups (groups.take start) ++ [':', ':'] ++ joinGroups (groups.drop (start + count))

end SnippetReview.Address
