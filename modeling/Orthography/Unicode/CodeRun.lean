
/-!
# Runs of code points

A class of characters is given by the runs of code points that make it up, in ascending order.
-/

namespace Orthography.Unicode

set_option autoImplicit false

/-- The code points `first`, `first + step`, `first + 2 * step`, … up to `last`. -/
structure CodeRun where
  first : Nat
  last : Nat
  step : Nat
deriving DecidableEq, Repr

namespace CodeRun

/-- Whether a code point lies in a run. -/
def contains (run : CodeRun) (n : Nat) : Bool :=
  run.first ≤ n && n ≤ run.last && (n - run.first) % run.step == 0

/-- Whether a code point lies in one of the runs, which are in ascending order: the search ends at
the first run that starts past it. -/
def covers : List CodeRun → Nat → Bool
  | [], _ => false
  | run :: rest, n => if n < run.first then false else run.contains n || covers rest n

end CodeRun

end Orthography.Unicode
