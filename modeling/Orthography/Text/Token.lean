import Orthography.Text.Columns
import Orthography.Text.Segment
import Orthography.Unicode.Alphabetic
import Orthography.Unicode.Numeric

/-!
# Tokens of a line

The tokens of a line are its segments that hold a letter or a number, with the place where each
one stands: in bytes and in columns.
-/

namespace Orthography

set_option autoImplicit false

/-- A word of a line. -/
structure Token where
  text : String
  /-- Bytes of the line before the token. -/
  byteStart : Nat
  /-- Column where the token starts. -/
  start : Nat
  /-- Column right after the token. -/
  stop : Nat
deriving DecidableEq, Repr

namespace Token

/-- Whether a segment is a word rather than white space or punctuation. -/
def isWord (segment : List Char) : Bool :=
  segment.any fun c => Unicode.isAlphabetic c || Unicode.isNumeric c

/-- The tokens among segments that stand in a row, the first of them at the given byte and
column. -/
def ofSegments (byte column : Nat) : List (List Char) → List Token
  | [] => []
  | segment :: rest =>
    let after :=
      ofSegments (byte + Columns.byteLength segment) (column + Columns.width segment) rest
    if isWord segment then
      ⟨String.ofList segment, byte, column, column + Columns.width segment⟩ :: after
    else after

/-- The tokens of a line, from left to right. -/
def ofLine (line : String) : List Token :=
  ofSegments 0 0 (Segment.ofLine line.toList)

/-- The characters of a line before and after a byte offset; the cut never splits a character. -/
def cutBytes : Nat → List Char → List Char × List Char
  | _, [] => ([], [])
  | 0, line => ([], line)
  | byte + 1, c :: rest =>
    let parts := cutBytes (byte + 1 - c.utf8Size) rest
    (c :: parts.1, parts.2)

/-- A line with one of its tokens replaced and all else kept. -/
def replace (token : Token) (line replacement : String) : String :=
  let before := (cutBytes token.byteStart line.toList).1
  let after :=
    (cutBytes (token.byteStart + Columns.byteLength token.text.toList) line.toList).2
  String.ofList (before ++ replacement.toList ++ after)

end Token

end Orthography
