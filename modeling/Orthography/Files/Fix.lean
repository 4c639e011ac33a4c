import Orthography.Files.Check

/-!
# Fixing files

Every flagged word that has a near correction is replaced by the nearest one.  Words without one are
left to the user.  The diagnostics are taken from right to left, so that the columns of those to the
left stay valid.
-/

namespace Orthography.Files

set_option autoImplicit false

/-- A document with the edit of a suggestion made, unless that changes nothing.  Only edits within
one line are made. -/
def applyEdit (document : Document) (placed : Placed) : Option Document :=
  match placed.suggestion.edit with
  | none => none
  | some edit =>
    let range := placed.range
    if range.start.line ≠ range.stop.line then none
    else
      match document.line? range.start.line with
      | none => none
      | some line =>
        let start := range.start.character
        let stop := range.stop.character
        if Columns.slice line.toList start stop = edit.toList then none
        else
          some (document.setLine range.start.line
            (String.ofList (Columns.splice line.toList start stop edit.toList)))

/-- A diagnostic with its nearest correction as its edit, if there is one. -/
def correction? (checker : Checker) (document : Document) (placed : Placed) : Option Placed :=
  if placed.suggestion.isWholeLine then none
  else
    match (finding checker document placed).suggestions with
    | [] => none
    | nearest :: _ =>
      some { placed with suggestion := { placed.suggestion with edit := some nearest } }

/-- A document with one diagnostic corrected where that can be done, and the number of corrections
made so far. -/
def correct (checker : Checker) (state : Document × Nat) (placed : Placed) : Document × Nat :=
  match (correction? checker state.1 placed).bind (applyEdit state.1) with
  | some document => (document, state.2 + 1)
  | none => state

/-- Fixes a file: the result, what is announced, and the disk after it.  The file is written only if
something was corrected. -/
def fix (session : Session) (disk : Disk) (path : String) :
    Except Failure CheckResult × List Announcement × Disk :=
  match readDocument disk path with
  | .error failure => (.error failure, [], disk)
  | .ok (before, document) =>
    let (placed, announcements) := session.diagnostics document
    let (document, fixed) := placed.reverse.foldl (correct session.checker) (document, 0)
    let result : CheckResult :=
      { errorCount := placed.length - fixed, fixedCount := fixed, findings := [] }
    if fixed = 0 then (.ok result, announcements, disk)
    else
      let (written, disk) := writeDocument disk path before document
      (written.map fun _ => result, announcements, disk)

end Orthography.Files
