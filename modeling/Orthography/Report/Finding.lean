import Orthography.Suggestion

/-!
# Findings

What is reported about a file: one finding for each diagnostic, with lines and columns counted from
one.
-/

namespace Orthography

set_option autoImplicit false

/-- A diagnostic of a file, with the word that it is about and corrections for it. -/
structure Finding where
  word : String
  message : String
  source : String
  severity : Severity
  line : Nat
  column : Nat
  context : String
  suggestions : List String
deriving DecidableEq, Repr

/-- What comes of checking or fixing a file. -/
structure CheckResult where
  errorCount : Nat
  fixedCount : Nat
  findings : List Finding
deriving DecidableEq, Repr

end Orthography
