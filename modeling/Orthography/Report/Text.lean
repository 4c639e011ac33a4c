import Orthography.Number.Decimal
import Orthography.Report.Finding
import Orthography.Report.Style

/-!
# Reports as text

Findings and summaries for people to read, with or without colour.
-/

namespace Orthography.Report

set_option autoImplicit false

/-- A line of output. -/
def line (text : String) : String :=
  text ++ "\n"

/-- A word for a number of things. -/
def plural (count : Nat) (one many : String) : String :=
  if count = 1 then one else many

/-- The context of a finding, with the word in it picked out. -/
def contextText (colour : Bool) (context word : String) : String :=
  if colour && !word.isEmpty then
    String.ofList
      (replaceAll word.toList (strong true .red word).toList context.length context.toList)
  else context

/-- The lines about one finding. -/
def findingText (colour : Bool) (finding : Finding) : String :=
  let place := Decimal.ofNat finding.line ++ ":" ++ Decimal.ofNat finding.column
  let label := if finding.word.isEmpty then finding.message else finding.word
  let tone := if finding.severity = .error then Colour.red else Colour.yellow
  let first :=
    line ("  " ++ strong colour .blue place ++ " " ++ strong colour tone label ++ " "
      ++ contextText colour finding.context finding.word)
  if finding.suggestions.isEmpty then first
  else
    let suggestions :=
      (dim colour ", ").intercalate (finding.suggestions.map (tint colour .green))
    first ++ line ("    " ++ dim colour "→" ++ " " ++ suggestions)

/-- The lines about the findings of a file; nothing if it has none. -/
def findingsText (colour : Bool) (path : String) (findings : List Finding) : String :=
  if findings.isEmpty then ""
  else
    "\n" ++ line (paint colour { bold := true, underlined := true } path)
      ++ String.join (findings.map (findingText colour))

/-- The summary of a check. -/
def checkSummary (colour : Bool) (errors files : Nat) : String :=
  if errors = 0 then "\n" ++ line (strong colour .green "✓ No spelling errors found!")
  else
    "\n" ++ line (strong colour .red "✗" ++ " " ++ strong colour .red (Decimal.ofNat errors) ++ " "
      ++ plural errors "error" "errors" ++ " found in " ++ Decimal.ofNat files ++ " "
      ++ plural files "file" "files")

/-- The summary of a run that fixes files. -/
def fixSummary (colour : Bool) (fixed added files : Nat) : String :=
  if fixed = 0 && added = 0 then "\n" ++ line (strong colour .green "No corrections needed!")
  else
    let corrections :=
      line (strong colour .green "✓" ++ " " ++ strong colour .green (Decimal.ofNat fixed) ++ " "
        ++ plural fixed "correction" "corrections" ++ " applied to " ++ Decimal.ofNat files ++ " "
        ++ plural files "file" "files")
    let additions :=
      if 0 < added then
        line ("  " ++ Decimal.ofNat added ++ " " ++ plural added "word" "words"
          ++ " added to the dictionary")
      else ""
    "\n" ++ corrections ++ additions

/-- What is shown above the menu for a line. -/
def promptText (colour : Bool) (path : String) (number : Nat) (text : String) : String :=
  "\n" ++ line (strong colour .yellow "Misspelling found:" ++ " " ++ tint colour .blue path ++ ":"
    ++ tint colour .blue (Decimal.ofNat number)) ++ line ("  " ++ text)

end Orthography.Report
