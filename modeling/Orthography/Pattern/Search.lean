import Orthography.Pattern.Expr

/-!
# Searching a text for a pattern

The search keeps a set of positions in the text.  A pattern moves the set: a position after the
move is one where a match that starts at a position of the old set can end.  A class of characters
moves every position by one, a place drops positions, a repetition adds positions until nothing new
comes.  Starting from all positions, the pattern occurs when some position is left.
-/

namespace Orthography.Pattern

set_option autoImplicit false

/-- A set of positions of a text of `n` characters: `n + 1` marks. -/
abbrev Positions := List Bool

namespace Positions

/-- The positions in either set. -/
def union (first second : Positions) : Positions :=
  List.zipWith (· || ·) first second

/-- The positions in both sets. -/
def inter (first second : Positions) : Positions :=
  List.zipWith (· && ·) first second

/-- Every position of a text. -/
def all (text : List Char) : Positions :=
  true :: text.map fun _ => true

/-- The positions of a text at which a place is, given the character before the text. -/
def ofPlace (place : Place) : Option Char → List Char → Positions
  | before, [] => [place.holds before none]
  | before, c :: rest => place.holds before (some c) :: ofPlace place (some c) rest

/-- The positions right after a character of a class that starts at a position of the set. -/
def shift (set : CharSet) (text : List Char) (marks : Positions) : Positions :=
  false :: List.zipWith (fun mark c => mark && set.contains c.toNat) marks text

/-- Adds what a move brings until nothing new comes, at most as many times as there is fuel. -/
def close (move : Positions → Positions) : Nat → Positions → Positions
  | 0, marks => marks
  | fuel + 1, marks =>
    let more := union marks (move marks)
    if more = marks then marks else close move fuel more

end Positions

/-- The positions where a match that starts at one of the marked positions can end.

A repetition adds at least one of `n + 1` positions in every round but the last, so `n + 1` rounds
are enough for it. -/
def Expr.move (text : List Char) : Expr → Positions → Positions
  | .empty, marks => marks
  | .one set, marks => Positions.shift set text marks
  | .at place, marks => Positions.inter marks (Positions.ofPlace place none text)
  | .seq first second, marks => second.move text (first.move text marks)
  | .alt first second, marks => Positions.union (first.move text marks) (second.move text marks)
  | .star body, marks => Positions.close (body.move text) (text.length + 1) marks

/-- Whether a pattern matches some part of a text. -/
def Expr.occursIn (pattern : Expr) (text : List Char) : Bool :=
  (pattern.move text (Positions.all text)).any id

end Orthography.Pattern
