import Orthography.Files.Collect
import Orthography.Report.Finding
import Orthography.Session

/-!
# Checking files

The findings of a file are the diagnostics of its lines, each with the corrections that are near
enough.  What the checker offers only because nothing is near is left out.
-/

namespace Orthography.Files

set_option autoImplicit false

/-- The corrections for a word that are near enough, with its capital taken over. -/
def nearMatches (checker : Checker) (word : String) : List String :=
  let key := Word.key word
  (checker.check word).filterMap fun candidate =>
    let candidateKey := Word.key candidate
    if candidateKey ≠ key
        && (Word.relativeDistance candidateKey key).le checker.settings.maxDistance then
      some (Word.matchCase word candidate)
    else none

/-- The part of a line that a suggestion in its place is about; nothing for a whole line. -/
def flaggedText (context : String) (placed : Placed) : String :=
  if placed.suggestion.span.isSome then
    String.ofList
      (Columns.slice context.toList placed.range.start.character placed.range.stop.character)
  else ""

/-- A diagnostic as it is reported. -/
def finding (checker : Checker) (document : Document) (placed : Placed) : Finding :=
  let context := (document.line? placed.range.start.line).getD ""
  let word := flaggedText context placed
  { word := word
    message := placed.suggestion.message
    source := placed.suggestion.source
    severity := placed.suggestion.severity
    line := placed.range.start.line + 1
    column := placed.range.start.character + 1
    context := Word.trimmed context
    suggestions := if word.isEmpty then [] else nearMatches checker word }

/-- Checks a file: the result, and what is announced. -/
def check (session : Session) (disk : Disk) (path : String) :
    Except Failure CheckResult × List Announcement :=
  match readDocument disk path with
  | .error failure => (.error failure, [])
  | .ok (_, document) =>
    let (placed, announcements) := session.diagnostics document
    let findings := placed.map (finding session.checker document)
    (.ok { errorCount := findings.length, fixedCount := 0, findings := findings }, announcements)

end Orthography.Files
