import SnippetReview.Duration
import SnippetReview.Report.Wire

/-!
A second opinion by a generative service: what is asked, and which answers count. An answer is
taken as a whole or not at all.
-/

namespace SnippetReview

inductive Contradiction where
  | zeroLine
  | counts
  deriving DecidableEq, Repr

def Contradiction.message : Contradiction → Text
  | zeroLine => "line numbers start at 1".toList
  | counts => "counts do not match the reported errors".toList

namespace Enrichment

inductive Failure where
  | transport (reason : Text)
  | status (code : Nat)
  | emptyResponse
  | timeout (after : Duration)
  | malformed
  | inconsistent (c : Contradiction)
  deriving DecidableEq, Repr

def Failure.message : Failure → Text
  | transport reason => "transport error: ".toList ++ reason
  | status code => "backend returned status ".toList ++ Text.ofNat code
  | emptyResponse => "backend returned no content".toList
  | timeout after => "timed out after ".toList ++ after.text
  | malformed => "response is not a validation result".toList
  | inconsistent c => "response contradicts itself: ".toList ++ c.message

def fence : Text :=
  ['\x60', '\x60', '\x60']

def insideFence? (text : Text) : Option Text :=
  if fence.isPrefixOf text then
    let inner := text.drop fence.length
    if fence.isSuffixOf inner then some (inner.take (inner.length - fence.length)) else none
  else none

/-- A fenced text has its fence and the rest of the opening line taken off. -/
def stripFence (raw : Text) : Text :=
  let text := Text.trim raw
  match insideFence? text with
  | none => text
  | some inner =>
    match inner.dropWhile (· != '\n') with
    | [] => Text.trim inner
    | _ :: body => Text.trim body

def accept (raw : Text) : Except Failure Report :=
  match (Json.read? (stripFence raw)).bind Report.ofJson? with
  | none => .error .malformed
  | some r =>
    if r.findings.any fun f => f.line = 0 then .error (.inconsistent .zeroLine)
    else if r.isConsistent then .ok r
    else .error (.inconsistent .counts)

structure Question where
  language : Text
  code : Text
  deriving DecidableEq, Repr

inductive Reply where
  | answer (raw : Text)
  | failure (f : Failure)
  | silence
  deriving DecidableEq, Repr

structure Attempt where
  after : Duration
  reply : Reply
  deriving DecidableEq, Repr

/-- A service, whose attempts may depend on all that it was asked before. -/
def Backend := List Question → Question → Attempt

def Backend.atOnce (service : Question → Reply) : Backend :=
  fun _ q => ⟨⟨0⟩, service q⟩

-- The service keeps the record. What asks it cannot leave a question out of it.
abbrev Asking := StateM (List Question)

def ask (backend : Backend) (q : Question) : Asking Attempt :=
  fun asked => (backend asked q, asked ++ [q])

structure Policy where
  timeout : Duration
  minChars : Nat
  deriving DecidableEq, Repr

namespace Policy

def isEligible (policy : Policy) (code : Text) : Bool :=
  policy.minChars < (Text.trim code).length

/-- A reply that comes when the time is up still counts. -/
def await (policy : Policy) (attempt : Attempt) : Reply :=
  if attempt.after ≤ policy.timeout then attempt.reply else .silence

def judge (policy : Policy) : Reply → Except Failure Report
  | .answer raw => accept raw
  | .failure f => .error f
  | .silence => .error (.timeout policy.timeout)

def enrich? (policy : Policy) (backend : Backend) (q : Question) : Asking (Option Report) := do
  if policy.isEligible q.code then
    return (policy.judge (policy.await (← ask backend q))).toOption
  else return none

def describe (policy : Policy) : Text :=
  "EnrichmentAdapter \x7b timeout: ".toList ++ policy.timeout.text ++
    ", min_code_chars: ".toList ++ Text.ofNat policy.minChars ++ ", .. \x7d".toList

end Policy

end Enrichment

end SnippetReview
