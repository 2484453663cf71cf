import SnippetReview.Catalog
import SnippetReview.Enrichment

namespace SnippetReview

open Enrichment

structure Reviewer where
  catalog : Catalog
  enrichment : Option Policy

namespace Reviewer

def heuristic (reviewer : Reviewer) (code language : Text) : Report :=
  (reviewer.catalog.get language).review code

def asks (reviewer : Reviewer) (code : Text) : Bool :=
  reviewer.enrichment.any fun policy => policy.isEligible code

def validate (reviewer : Reviewer) (backend : Backend) (code language : Text) :
    Asking Report := do
  let heuristic := reviewer.heuristic code language
  match reviewer.enrichment with
  | none => return heuristic
  | some policy => return (← policy.enrich? backend ⟨language, code⟩).getD heuristic

structure Outcome where
  report : Report
  asked : Option Question
  deriving DecidableEq, Repr

structure Request where ofBackend ::
  code : Text
  language : Text
  backend : Backend

def Request.mk (code language : Text) (service : Question → Reply) : Request :=
  .ofBackend code language (.atOnce service)

/-- A review, seen from the record of the service: with the number of questions in it. -/
def observe (reviewer : Reviewer) (request : Request) : Asking (Outcome × Nat) := do
  let before ← get
  let report ← reviewer.validate request.backend request.code request.language
  let asked ← get
  return (⟨report, asked[before.length]?⟩, asked.length)

def observeAll (reviewer : Reviewer) (requests : List Request) : Asking (List (Outcome × Nat)) :=
  requests.mapM reviewer.observe

def session (reviewer : Reviewer) (requests : List Request) : List (Outcome × Nat) :=
  (reviewer.observeAll requests []).1

def review (reviewer : Reviewer) (service : Question → Reply) (code language : Text) : Outcome :=
  (reviewer.observe (.mk code language service) []).1.1

end Reviewer

end SnippetReview
