import Orthography.Level

/-!
# Suggestions

What an analyzer has to say about a line or a word of a document: a message, perhaps an edit, and
perhaps a command that changes the lexicon.
-/

namespace Orthography

set_option autoImplicit false

/-- How serious a suggestion is. -/
inductive Severity where
  | error
  | warning
  | information
  | hint
deriving DecidableEq, Repr

/-- The name of a severity. -/
def Severity.name : Severity → String
  | .error => "error"
  | .warning => "warning"
  | .information => "information"
  | .hint => "hint"

/-- The columns of a part of a line, the second one not included. -/
structure Span where
  start : Nat
  stop : Nat
  ordered : start ≤ stop
deriving DecidableEq, Repr

/-- The span between two columns, in whichever order they come. -/
def Span.between (a b : Nat) : Span :=
  ⟨min a b, max a b, by omega⟩

/-- A change of the lexicon that a suggestion offers. -/
inductive Command where
  | addWords (words : List String) (level : Level)
deriving DecidableEq, Repr

/-- A suggestion.  Without a line it is about the document, without a span about a whole line. -/
structure Suggestion where
  message : String
  source : String
  edit : Option String := none
  severity : Severity := .warning
  line : Option Nat := none
  span : Option Span := none
  command : Option Command := none
deriving DecidableEq, Repr

/-- Whether a suggestion covers its whole line. -/
def Suggestion.isWholeLine (suggestion : Suggestion) : Bool :=
  suggestion.span.isNone

end Orthography
