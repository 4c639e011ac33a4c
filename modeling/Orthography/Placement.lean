import Orthography.Document
import Orthography.Suggestion
import Orthography.Text.Columns

/-!
# Places in a document

Suggestions are placed in the coordinates of an editor: lines and columns, both counted from zero.
Lines are numbers of 32 bits there.
-/

namespace Orthography

set_option autoImplicit false

/-- A place between two characters of a document. -/
structure Position where
  line : Nat
  character : Nat
deriving DecidableEq, Repr

/-- The part of a document between two places. -/
structure Range where
  start : Position
  stop : Position
deriving DecidableEq, Repr

namespace Range

/-- The empty range at the start of a document. -/
def origin : Range :=
  ⟨⟨0, 0⟩, ⟨0, 0⟩⟩

/-- The empty range at a place. -/
def caret (position : Position) : Range :=
  ⟨position, position⟩

/-- A part of one line. -/
def onLine (line start stop : Nat) : Range :=
  ⟨⟨line, start⟩, ⟨line, stop⟩⟩

end Range

/-- The part of a document that a suggestion is about: its span, or its whole line, or nothing at
the start of the document when it has no line. -/
def Suggestion.range (suggestion : Suggestion) (document : Document) : Range :=
  match suggestion.line with
  | none => Range.origin
  | some line =>
    match suggestion.span with
    | some span => Range.onLine (line % Nat.pow 2 32) span.start span.stop
    | none =>
      let width :=
        match document.line? line with
        | some text => Columns.width text.toList
        | none => 0
      Range.onLine (line % Nat.pow 2 32) 0 width

/-- A suggestion together with its place. -/
structure Placed where
  suggestion : Suggestion
  range : Range
deriving DecidableEq, Repr

/-- A suggestion placed in a document. -/
def Suggestion.place (suggestion : Suggestion) (document : Document) : Placed :=
  ⟨suggestion, suggestion.range document⟩

end Orthography
