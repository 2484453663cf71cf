import SnippetReview.Pattern.Regex

namespace SnippetReview.Pattern.Regex

def leads (lead : Option CharClass) (x : Char) : Bool :=
  match lead with
  | some s => s.contains x
  | none => false

def occursFrom (r : Regex) (lead : Option CharClass) : Bool → Cursor → Text → Bool
  | known, c, rest =>
    if !known && (r.matchAt c).isSome then true
    else
      match rest with
      | [] => false
      | x :: rest => occursFrom r lead (leads lead x) (c.step x rest) rest

def occursIn (r : Regex) (text : Text) : Bool :=
  r.occursFrom r.leadingRun false (Cursor.start text) text

structure Progress where
  /-- Characters of the last match that are still to be passed over. -/
  skip : Nat
  afterMatch : Bool
  /-- No match begins here. -/
  known : Bool

/-- Replaces the matches from the cursor on; `out` is the text before it, backwards. An empty match
right after another match counts as none. -/
def replaceFrom (r : Regex) (lead : Option CharClass) (new : Text) :
    Progress → Cursor → Text → Text → Text
  | ⟨skip + 1, _, _⟩, c, out, rest =>
    match rest with
    | [] => out.reverse
    | x :: rest => replaceFrom r lead new ⟨skip, true, false⟩ (c.step x rest) out rest
  | ⟨0, afterMatch, known⟩, c, out, rest =>
    match if known then none else r.matchAt c with
    | none =>
      match rest with
      | [] => out.reverse
      | x :: rest =>
        replaceFrom r lead new ⟨0, false, leads lead x⟩ (c.step x rest) (x :: out) rest
    | some d =>
      let out := if d.pos = c.pos && afterMatch then out else new.reverseAux out
      match rest with
      | [] => out.reverse
      | x :: rest =>
        if d.pos = c.pos then
          replaceFrom r lead new ⟨0, false, false⟩ (c.step x rest) (x :: out) rest
        else
          replaceFrom r lead new ⟨d.pos - c.pos - 1, true, false⟩ (c.step x rest) out rest

def replaceAll (r : Regex) (new text : Text) : Text :=
  r.replaceFrom r.leadingRun new ⟨0, false, false⟩ (Cursor.start text) [] text

end SnippetReview.Pattern.Regex
