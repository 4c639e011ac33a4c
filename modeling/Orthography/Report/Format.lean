import Orthography.Failure
import Orthography.Unicode.CaseMapping

/-!
# Formats of reports

A report is text for people, or JSON for other programs.
-/

namespace Orthography

set_option autoImplicit false

/-- How a report is printed. -/
inductive OutputFormat where
  | text
  | json
deriving DecidableEq, Repr

namespace OutputFormat

/-- The name of a format. -/
def name : OutputFormat → String
  | text => "text"
  | json => "json"

/-- The format that a user means; case does not count. -/
def read (name : String) : Except Failure OutputFormat :=
  match String.ofList (Unicode.lowercaseText name.toList) with
  | "text" => .ok text
  | "json" => .ok json
  | _ => .error (.unknownFormat name)

end OutputFormat

end Orthography
