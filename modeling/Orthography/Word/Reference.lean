import Orthography.Pattern.Search

/-!
# References to verses

Drafts of scripture carry references such as `GEN 1:1`.  A line that holds one is not checked, and
neither is a word that holds a verse marker such as `3:16`.
-/

namespace Orthography.Word

set_option autoImplicit false

open Pattern

/-- A row of decimal digits. -/
def digits : Expr :=
  .plus (.one .digit)

/-- A chapter, a colon and a verse. -/
def verseMarker : Expr :=
  .all [digits, .one (.single ':'), digits]

/-- A reference such as `GEN 1:1` or `1 JN 4:8`: perhaps digits and white space, the capitals of
the book, one white space, and a verse marker.  It starts and ends at the edge of a word. -/
def scriptureReference : Expr :=
  .all
    [.at (.edge .word), .star (.one .digit), .star (.one .space), .plus (.one (.span 0x41 0x5A)),
      .one .space, verseMarker, .at (.edge .word)]

/-- Whether a line carries a scripture reference. -/
def isScriptureReference (line : String) : Bool :=
  scriptureReference.occursIn line.toList

end Orthography.Word
