import Orthography.Unicode.WhiteSpace

/-!
# Punctuation at the edges of words

Words are compared without the white space and punctuation around them.  What counts as
punctuation is a fixed set: the signs of ASCII, the common quotes and dashes, and the stops of the
Indic, Arabic and East Asian scripts.
-/

namespace Orthography.Word

set_option autoImplicit false

/-- Signs of ASCII that are neither letters, digits, spaces nor controls. -/
def isAsciiSign (c : Char) : Bool :=
  ('!' ≤ c && c ≤ '/') || (':' ≤ c && c ≤ '@') || ('[' ≤ c && c ≤ '\x60') || ('\x7b' ≤ c && c ≤ '~')

/-- Punctuation as far as the comparison of words is concerned. -/
def isPunctuation (c : Char) : Bool :=
  isAsciiSign c
    || ('\u2018' ≤ c && c ≤ '\u201f')
    || ('\u2010' ≤ c && c ≤ '\u2015')
    || ['\u2026', '\u00a1', '\u00bf', '\u00ab', '\u00bb', '\u00b7', '\u0964', '\u0965', '\u060c',
        '\u061f', '\u3001', '\u3002'].contains c

/-- A character that is left out at the edges of a word. -/
def isEdge (c : Char) : Bool :=
  Unicode.isWhiteSpace c || isPunctuation c

/-- A text without the characters of a class at its start and end. -/
def trimBy (drop : Char → Bool) (text : List Char) : List Char :=
  ((text.dropWhile drop).reverse.dropWhile drop).reverse

/-- A word without white space and punctuation around it, in its own case. -/
def surfaceChars (word : List Char) : List Char :=
  trimBy isEdge word

/-- A word without white space and punctuation around it, in its own case. -/
def surface (word : String) : String :=
  String.ofList (surfaceChars word.toList)

/-- A text without white space around it. -/
def trimmed (text : String) : String :=
  String.ofList (trimBy Unicode.isWhiteSpace text.toList)

/-- The characters after the last white space of a line. -/
def lastChars (line : List Char) : List Char :=
  (line.reverse.takeWhile fun c => !Unicode.isWhiteSpace c).reverse

/-- The word that runs up to the end of a line; empty when the line ends in white space. -/
def last (line : String) : String :=
  String.ofList (lastChars line.toList)

end Orthography.Word
