import Orthography.Analyzer.Kind
import Orthography.Placement

/-!
# Analyzers

An analyzer turns what it looks at, a line or a document, into suggestions.  It sees a context that
it cannot change, and it may break down instead of answering.
-/

namespace Orthography

set_option autoImplicit false

/-- How an analyzer breaks down. -/
inductive Breakdown where
  /-- It reports a cause, with what it was doing in front, outermost first. -/
  | failed (causes : List String)
  /-- It stops, perhaps with a message. -/
  | stopped (message : Option String)
deriving DecidableEq, Repr

/-- The wording of a breakdown. -/
def Breakdown.message : Breakdown → String
  | .failed causes => ": ".intercalate causes
  | .stopped (some message) => "panicked: " ++ message
  | .stopped none => "panicked"

/-- What comes of a call of an analyzer. -/
abbrev Answer := Except Breakdown (List Suggestion)

/-- What an analyzer of documents looks at: the lines, and for a completion the cursor. -/
structure View where
  lines : List String
  cursor : Option Position
deriving DecidableEq, Repr

/-- The text of the cursor's line up to the cursor, if there is such a line. -/
def View.beforeCursor? (view : View) : Option String := do
  let cursor ← view.cursor
  let line ← view.lines[cursor.line]?
  return String.ofList (Columns.cut cursor.character line.toList).1

/-- An analyzer with some context. -/
inductive Analyzer (Context : Type) where
  | line (run : Context → String → Answer)
  | document (run : Context → View → Answer)

/-- What an analyzer looks at. -/
def Analyzer.shape {Context : Type} : Analyzer Context → AnalyzerShape
  | .line _ => .line
  | .document _ => .document

end Orthography
