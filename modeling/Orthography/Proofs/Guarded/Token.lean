import Orthography.Proofs.Guarded.Text

/-!
# Tokens on guard

The tokens of a line are found in one pass over its segments, with a byte offset that comes with each
segment and a column that is counted in 32 bits.  The pass is careful: if a segment did not stand
right after the one before it, the text between the two would be cut out and counted.  That never
happens, and no sum overflows if the units of the line can be counted (`Guarded.tokens_eq`).

A token is replaced by its bytes.  It can be, in the line that it comes from (`Guarded.replace_eq`).
-/

namespace Orthography.Guarded

set_option autoImplicit false

open Columns (width byteLength)

/-- Segments in a row with the byte offsets at which they start, the first of them at a given one. -/
def located (offset : Nat) : List (List Char) → List (Nat × List Char)
  | [] => []
  | segment :: rest => (offset, segment) :: located (offset + byteLength segment) rest

/-- The tokens among some located segments of a line, of which so many bytes and columns were passed
before. -/
def tokensFrom (line : List Char) (passed column : Nat) :
    List (Nat × List Char) → Option (List Token)
  | [] => some []
  | (offset, segment) :: rest => do
    let start ←
      if passed < offset then do
        let gap ← between line passed offset
        sum 32 column (← width32 gap)
      else some column
    let stop ← sum 32 start (← width32 segment)
    let passed ← count (byteLength line) offset (byteLength segment)
    let others ← tokensFrom line passed stop rest
    return if Token.isWord segment then ⟨String.ofList segment, offset, start, stop⟩ :: others
      else others

/-- The tokens of a line. -/
def tokens (line : String) : Option (List Token) :=
  tokensFrom line.toList 0 0 (located 0 (Segment.ofLine line.toList))

/-- A line with one of its tokens replaced. -/
def replace (token : Token) (line replacement : String) : Option String := do
  let stop ← count (byteLength line.toList) token.byteStart (byteLength token.text.toList)
  let before ← splitAt token.byteStart line.toList
  let after ← splitAt stop line.toList
  return String.ofList (before.1 ++ replacement.toList ++ after.2)

/-- The pass over segments in a row counts the bytes that they take, which are in the line, and the
columns, if these fit 32 bits. -/
theorem tokensFrom_eq {line : List Char} {segments : List (List Char)} {passed column : Nat}
    (inside : passed + byteLength segments.flatten ≤ byteLength line)
    (narrow : column + width segments.flatten < Nat.pow 2 32) :
    tokensFrom line passed column (located passed segments)
      = some (Token.ofSegments passed column segments) := by
  induction segments generalizing passed column with
  | nil => rfl
  | cons segment rest ih =>
    rw [List.flatten_cons, Columns.byteLength_append, ← Nat.add_assoc] at inside
    rw [List.flatten_cons, Columns.width_append, ← Nat.add_assoc] at narrow
    -- A segment stands right after the one before it: there is no gap to cut out.
    have columns : sum 32 column (width segment) = some (column + width segment) :=
      sum_eq (by omega)
    have bytes : count (byteLength line) passed (byteLength segment)
        = some (passed + byteLength segment) :=
      count_eq (by omega)
    rw [located, tokensFrom, if_neg (Nat.lt_irrefl passed), width32_eq (by omega), Token.ofSegments]
    simp only [Option.bind_eq_bind, Option.bind_some, columns, bytes, ih inside narrow,
      Option.pure_def]

/-- **The tokens of a line are found** if its units can be counted. -/
theorem tokens_eq {line : String} (narrow : width line.toList < Nat.pow 2 32) :
    tokens line = some (Token.ofLine line) := by
  refine tokensFrom_eq ?_ ?_
  · exact Nat.le_of_eq (by rw [Segment.flatten_ofLine, Nat.zero_add])
  · rwa [Segment.flatten_ofLine, Nat.zero_add]

/-- **A token of a line can be replaced in it.** -/
theorem replace_eq {line : String} {token : Token} (member : token ∈ Token.ofLine line)
    (replacement : String) :
    replace token line replacement = some (token.replace line replacement) := by
  obtain ⟨before, segment, after, split, -, rfl⟩ := Token.exists_segments member
  have whole : line.toList = before.flatten ++ segment ++ after.flatten := by
    rw [← Segment.flatten_ofLine line.toList, split, List.flatten_append, List.flatten_cons,
      List.append_assoc]
  -- The token stands right after the bytes before it, and ends right after its own.
  have left : line.toList = before.flatten ++ (segment ++ after.flatten) := by
    rw [whole, List.append_assoc]
  have stop : count (byteLength line.toList) (byteLength before.flatten) (byteLength segment)
      = some (byteLength (before.flatten ++ segment)) := by
    rw [whole, count_byteLength]
  simp only [replace, Token.replace, Nat.zero_add, String.toList_ofList]
  rw [stop, Option.bind_eq_bind, Option.bind_some, ← Columns.byteLength_append, left,
    splitAt_byteLength, Token.cutBytes_byteLength_append, ← left, whole, splitAt_byteLength,
    Token.cutBytes_byteLength_append]
  rfl

end Orthography.Guarded
