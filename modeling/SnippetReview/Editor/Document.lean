import SnippetReview.Editor.Range
import SnippetReview.Enrichment

namespace SnippetReview.Editor

structure Document where
  content : Text
  language : Text
  report : Option Report := none
  deriving DecidableEq, Repr

namespace Document

def edit (d : Document) (content : Text) : Document :=
  { d with content := content, report := none }

/-- Keeps a report if it is about the text that the document still has. -/
def store? (d : Document) (reviewed : Text) (report : Report) : Option Document :=
  if d.content = reviewed then some { d with report := some report } else none

def pending (d : Document) : Option Text :=
  match d.report with
  | none => none
  | some r => if r.corrected.isEmpty || r.corrected = d.content then none else some r.corrected

end Document

structure Snapshot where
  uri : Text
  content : Text
  language : Text
  deriving DecidableEq, Repr

abbrev Workspace := List (Text × Document)

namespace Workspace

def get? (w : Workspace) (uri : Text) : Option Document :=
  w.lookup uri

def close (w : Workspace) (uri : Text) : Workspace :=
  w.filter fun entry => entry.1 != uri

def put (w : Workspace) (uri : Text) (d : Document) : Workspace :=
  (uri, d) :: w.close uri

def openDocument (w : Workspace) (uri language content : Text) : Workspace :=
  w.put uri ⟨content, language, none⟩

def change? (w : Workspace) (uri content : Text) : Option Workspace := do
  return w.put uri ((← w.get? uri).edit content)

def snapshot? (w : Workspace) (uri : Text) : Option Snapshot :=
  (w.get? uri).map fun d => ⟨uri, d.content, d.language⟩

def finish? (w : Workspace) (s : Snapshot) (report : Report) : Option Workspace := do
  return w.put s.uri (← (← w.get? s.uri).store? s.content report)

end Workspace

end SnippetReview.Editor
