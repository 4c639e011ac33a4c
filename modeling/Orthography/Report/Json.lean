import Orthography.Json.Printer
import Orthography.Report.Text

/-!
# Reports as JSON

One JSON document about all files that were checked.
-/

namespace Orthography.Report

set_option autoImplicit false

/-- A finding in a file. -/
def findingJson (path : String) (finding : Finding) : Json :=
  .object
    [("file", .string path),
      ("line", .nat finding.line),
      ("column", .nat finding.column),
      ("word", .string finding.word),
      ("message", .string finding.message),
      ("source", .string finding.source),
      ("severity", .string finding.severity.name),
      ("suggestions", .strings finding.suggestions),
      ("context", .string finding.context)]

/-- The findings in all files. -/
def allFindings (results : List (String × CheckResult)) : List Json :=
  results.flatMap fun (path, result) => result.findings.map (findingJson path)

/-- The report about all files. -/
def document (results : List (String × CheckResult)) : Json :=
  .object
    [("files_checked", .nat results.length),
      ("total_errors", .nat (allFindings results).length),
      ("errors", .array (allFindings results))]

/-- The report about all files, as it is printed. -/
def jsonText (results : List (String × CheckResult)) : String :=
  line (document results).pretty

end Orthography.Report
