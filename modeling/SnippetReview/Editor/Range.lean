import SnippetReview.Report.Wire

namespace SnippetReview.Editor

structure Position where
  line : UInt32
  character : UInt32
  deriving DecidableEq, Repr

structure Range where
  start : Position
  finish : Position
  deriving DecidableEq, Repr

namespace Position

def advance (p : Position) (c : Char) : Position :=
  if c = '\n' then ⟨p.line + 1, 0⟩
  else ⟨p.line, p.character + UInt32.ofNat (Text.units16 c)⟩

def endOf (text : Text) : Position :=
  text.foldl advance ⟨0, 0⟩

open Json

def toJson (p : Position) : Json :=
  ofMembers [("line", ofNat p.line.toNat), ("character", ofNat p.character.toNat)]

def word? (value : Json) : Option UInt32 := do
  let n ← value.natural?
  if n < UInt32.size then some (UInt32.ofNat n) else none

def ofJson? (value : Json) : Option Position := do
  match ← value.fields? ["line", "character"] with
  | [some line, some character] => return ⟨← word? line, ← word? character⟩
  | _ => none

end Position

namespace Range

def full (text : Text) : Range :=
  ⟨⟨0, 0⟩, Position.endOf text⟩

/-- The line of a finding from its first to past its last code unit. A line beyond the document has
none. -/
def ofFinding (f : Finding) (text : Text) : Range :=
  let n := f.line - 1
  let length := ((Text.lines text)[n]?.map Text.length16).getD 0
  ⟨⟨UInt32.ofNat n, 0⟩, ⟨UInt32.ofNat n, UInt32.ofNat length⟩⟩

open Json

def toJson (r : Range) : Json :=
  ofMembers [("start", r.start.toJson), ("end", r.finish.toJson)]

def ofJson? (value : Json) : Option Range := do
  match ← value.fields? ["start", "end"] with
  | [some start, some finish] => return ⟨← Position.ofJson? start, ← Position.ofJson? finish⟩
  | _ => none

end Range

end SnippetReview.Editor
