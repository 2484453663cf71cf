import SnippetReview.Pattern.CharClass

/-!
Regular expressions and how they match: alternatives are tried in order, repetitions take as much
or as little as they can first, and the first way that lets the rest match counts.
-/

namespace SnippetReview.Pattern

structure Cursor where
  pos : Nat
  prev : Option Char
  rest : Text
  deriving DecidableEq, Repr

namespace Cursor

def start (text : Text) : Cursor :=
  ⟨0, none, text⟩

def next (c : Cursor) : Option Char :=
  c.rest.head?

def step (c : Cursor) (x : Char) (rest : Text) : Cursor :=
  ⟨c.pos + 1, some x, rest⟩

end Cursor

inductive WordEdge where
  | boundary
  | inside
  | start
  | finish
  | halfStart
  | halfFinish
  deriving DecidableEq, Repr

inductive Assertion where
  | textStart
  | textEnd
  | lineStart
  | lineEnd
  | anyLineStart
  | anyLineEnd
  | word (edge : WordEdge) (ascii : Bool)
  deriving DecidableEq, Repr

namespace Assertion

def isWordAt (ascii : Bool) : Option Char → Bool
  | none => false
  | some c => if ascii then Unicode.isAsciiWord c else Unicode.isWord c

def edgeHolds (before after : Bool) : WordEdge → Bool
  | .boundary => before != after
  | .inside => before == after
  | .start => !before && after
  | .finish => before && !after
  | .halfStart => !before
  | .halfFinish => !after

def holds (c : Cursor) : Assertion → Bool
  | textStart => c.prev.isNone
  | textEnd => c.next.isNone
  | lineStart => c.prev.isNone || c.prev == some '\n'
  | lineEnd => c.next.isNone || c.next == some '\n'
  | anyLineStart =>
    c.prev.isNone || c.prev == some '\n' || (c.prev == some '\r' && c.next != some '\n')
  | anyLineEnd =>
    c.next.isNone || c.next == some '\r' || (c.next == some '\n' && c.prev != some '\r')
  | word edge ascii => edgeHolds (isWordAt ascii c.prev) (isWordAt ascii c.next) edge

end Assertion

inductive Regex where
  | empty
  | chars (s : CharClass)
  | look (a : Assertion)
  | seq (r q : Regex)
  | alt (r q : Regex)
  | run (s : CharClass) (least : Nat) (greedy : Bool)
  | star (r : Regex) (greedy : Bool)
  | copies (r : Regex) (n : Nat)
  | upTo (r : Regex) (n : Nat) (greedy : Bool)
  deriving DecidableEq

namespace Regex

abbrev Continuation := Cursor → Option Cursor

def orElse (first : Option Cursor) (second : Unit → Option Cursor) : Option Cursor :=
  match first with
  | some c => some c
  | none => second ()

def choose (greedy : Bool) (more stop : Unit → Option Cursor) : Option Cursor :=
  if greedy then orElse (more ()) stop else orElse (stop ()) more

def runEnds (s : CharClass) : Nat → Cursor → List Cursor → Text → List Cursor
  | least, c, found, rest =>
    let found := if least == 0 then c :: found else found
    match rest with
    | [] => found
    | x :: rest =>
      if s.contains x then runEnds s (least - 1) (c.step x rest) found rest else found

def shortestRun (s : CharClass) (k : Continuation) : Nat → Cursor → Text → Option Cursor
  | least, c, rest =>
    orElse (if least == 0 then k c else none) fun _ =>
      match rest with
      | [] => none
      | x :: rest => if s.contains x then shortestRun s k (least - 1) (c.step x rest) rest else none

/-- Repeats a step; the characters left bound the number of rounds, and a round that takes no
character is the last. -/
def repeatStep (step : Continuation → Continuation) (greedy : Bool) (k : Continuation) :
    Text → Continuation
  | [], c => k c
  | _ :: fuel, c =>
    choose greedy
      (fun _ => step (fun d => if c.pos < d.pos then repeatStep step greedy k fuel d else k d) c)
      (fun _ => k c)

def times (step : Continuation → Continuation) (k : Continuation) : Nat → Continuation
  | 0 => k
  | n + 1 => step (times step k n)

def atMost (step : Continuation → Continuation) (greedy : Bool) (k : Continuation) :
    Nat → Continuation
  | 0, c => k c
  | n + 1, c => choose greedy (fun _ => step (atMost step greedy k n) c) (fun _ => k c)

def matchThen : Regex → Continuation → Continuation
  | empty, k, c => k c
  | chars s, k, c =>
    match c.rest with
    | [] => none
    | x :: rest => if s.contains x then k (c.step x rest) else none
  | look a, k, c => if a.holds c then k c else none
  | seq r q, k, c => r.matchThen (q.matchThen k) c
  | alt r q, k, c => orElse (r.matchThen k c) fun _ => q.matchThen k c
  | run s least greedy, k, c =>
    if greedy then (runEnds s least c [] c.rest).findSome? k
    else shortestRun s k least c c.rest
  | star r greedy, k, c => repeatStep r.matchThen greedy k c.rest c
  | copies r n, k, c => times r.matchThen k n c
  | upTo r n greedy, k, c => atMost r.matchThen greedy k n c

def matchAt (r : Regex) (c : Cursor) : Option Cursor :=
  r.matchThen some c

/-- The class of characters that a match can begin with any number of. If a match fails to begin
somewhere, none begins right after a further such character. -/
def leadingRun : Regex → Option CharClass
  | run s _ _ => some s
  | seq r _ => r.leadingRun
  | _ => none

def cost : Regex → Nat
  | empty => 24
  | chars s => s.cost
  | look _ => 24
  | seq r q => r.cost + q.cost
  | alt r q => r.cost + q.cost + 40
  | run s least _ => s.cost * (least + 1) + 40
  | star r _ => r.cost + 40
  | copies r n => r.cost * n
  | upTo r n _ => (r.cost + 40) * n

end Regex

end SnippetReview.Pattern
