import SnippetReview.Text

namespace SnippetReview

inductive Severity where
  | error
  | warning
  deriving DecidableEq, Repr

namespace Severity

def name : Severity → Text
  | error => "error".toList
  | warning => "warning".toList

def ofName? (name : Text) : Option Severity :=
  if name = error.name then some error
  else if name = warning.name then some warning
  else none

end Severity

structure Finding where
  line : Nat
  message : Text
  severity : Severity
  deriving DecidableEq, Repr

end SnippetReview
