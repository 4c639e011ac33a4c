/-!
# Kinds of analyzers

An analyzer serves one kind of request.  Actions look at one line at a time; completions and
diagnostics look at the whole document.
-/

namespace Orthography

set_option autoImplicit false

/-- The requests that analyzers serve. -/
inductive AnalyzerKind where
  | action
  | completion
  | diagnostic
deriving DecidableEq, Repr

/-- What an analyzer looks at. -/
inductive AnalyzerShape where
  | line
  | document
deriving DecidableEq, Repr

/-- The name of a kind. -/
def AnalyzerKind.name : AnalyzerKind → String
  | .action => "action"
  | .completion => "completion"
  | .diagnostic => "diagnostic"

/-- The name of a shape. -/
def AnalyzerShape.name : AnalyzerShape → String
  | .line => "line"
  | .document => "document"

/-- The shape that the analyzers of a kind have. -/
def AnalyzerKind.shape : AnalyzerKind → AnalyzerShape
  | .action => .line
  | .completion | .diagnostic => .document

end Orthography
