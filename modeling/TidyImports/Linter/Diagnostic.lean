import TidyImports.Session

/-!
# Diagnostics

What a linter reports about a text: a rule code, a message, a place, and proposals that would
resolve the issue. A report may hold a value of any kind as code or message, and such a value is
kept.
-/

namespace TidyImports

structure Diagnostic where
  code : Value
  message : Value
  fix : Option (List Proposal) := none
  location : Option Position := none

namespace Diagnostic

def fixable (d : Diagnostic) : Bool := !(d.fix.getD []).isEmpty

/-- The proposals of all diagnostics, in reporting order. -/
def proposals (ds : List Diagnostic) : List Proposal := ds.flatMap fun d => d.fix.getD []

end Diagnostic
end TidyImports
