import Orthography.Files.Check
import Orthography.Proofs.Session

/-!
# Findings of flagged tokens

The finding for the warning about a token is about the text of that token, wherever the token stands
in its line (`word_report`), and its corrections are the near corrections for this text
(`suggestions_report`).  So the findings of a file are about its flagged words, in their order, and
each has the near corrections for its word (`exists_findings`).
-/

namespace Orthography.Files

set_option autoImplicit false

open Spelling (flagged report reportsFrom)

variable (checker : Checker) {document : Document} {index : Nat} {token : Token}
variable {front back : List Char}

/-- The columns of a token that stands in a line are around its text. -/
theorem slice_token (stands : token.StandsAfter front) :
    Columns.slice (front ++ token.text.toList ++ back) token.start token.stop
      = token.text.toList := by
  rw [stands.start, stands.stop, Columns.slice_between]

/-- A warning about a token flags the text of the token. -/
theorem flaggedText_report (stands : token.StandsAfter front) :
    flaggedText (String.ofList (front ++ token.text.toList ++ back))
        (report index token) = token.text := by
  have inPlace : (report index token).suggestion.span.isSome = true := rfl
  rw [flaggedText, if_pos inPlace, String.toList_ofList, report, Range.onLine,
    slice_token stands, String.ofList_toList]

/-- The finding for a warning about a token is about its text. -/
theorem word_report (stands : token.StandsAfter front)
    (line : document.line? index = some (String.ofList (front ++ token.text.toList ++ back))) :
    (finding checker document (report index token)).word = token.text := by
  have context : document.line? (report index token).range.start.line
      = some (String.ofList (front ++ token.text.toList ++ back)) := line
  simp only [finding, context, Option.getD_some]
  exact flaggedText_report stands

/-- The finding for a warning about a token has the near corrections for its text. -/
theorem suggestions_report (stands : token.StandsAfter front)
    (line : document.line? index = some (String.ofList (front ++ token.text.toList ++ back))) :
    (finding checker document (report index token)).suggestions
      = nearMatches checker token.text := by
  have named : token.text.isEmpty = false := by
    rw [String.isEmpty_eq_false_iff]
    exact fun empty => stands.letters (String.toList_eq_nil_iff.mpr empty)
  have word := word_report checker stands line
  simp only [finding] at word ⊢
  rw [word, named]
  rfl

/-! ## The findings of a file -/

/-- What a finding is about, and what it offers. -/
def wordAndSuggestions (finding : Finding) : String × List String :=
  (finding.word, finding.suggestions)

variable (workspace : Workspace)

/-- The finding for a warning about a token of a line offers the near corrections for it. -/
theorem wordAndSuggestions_report {line : String} (here : document.line? index = some line)
    (flag : token ∈ flagged workspace line) :
    wordAndSuggestions (finding workspace.checker document (report index token))
      = (token.text, nearMatches workspace.checker token.text) := by
  have nothing : Columns.width [] = 0 := rfl
  obtain ⟨front, back, whole, stands⟩ :=
    (Spelling.laid_flagged workspace line).exists_front nothing flag
  rw [List.nil_append] at whole
  have there : document.line? index
      = some (String.ofList (front ++ token.text.toList ++ back)) := by
    rw [here, ← whole, String.ofList_toList]
  rw [wordAndSuggestions, word_report _ stands there, suggestions_report _ stands there]

/-- The findings for the warnings about lines of a document offer the near corrections for the
flagged words of these lines. -/
theorem findings_reportsFrom (above lines : List String) (whole : document.lines = above ++ lines) :
    (reportsFrom workspace above.length lines).map
        (fun placed => wordAndSuggestions (finding workspace.checker document placed))
      = (lines.flatMap (flagged workspace)).map
        fun token => (token.text, nearMatches workspace.checker token.text) := by
  induction lines generalizing above with
  | nil => rfl
  | cons line rest ih =>
    have here : document.line? above.length = some line := by
      rw [Document.line?, whole, List.getElem?_append_right (Nat.le_refl _), Nat.sub_self]
      rfl
    have below := ih (above ++ [line]) (by rw [whole, List.append_assoc, List.singleton_append])
    rw [List.length_append, List.length_singleton] at below
    rw [reportsFrom, List.map_append, below, List.flatMap_cons, List.map_append, List.map_map]
    congr 1
    exact List.map_congr_left fun token flag => wordAndSuggestions_report workspace here flag

/-- **The findings of a file are about its flagged words**, and each offers the near corrections for
its word. -/
theorem exists_findings {session : Session} {disk : Disk} {path before : String}
    (opened : readDocument disk path = .ok (before, document))
    (reported : (session.diagnostics document).1
      = reportsFrom session.workspace 0 document.lines) :
    ∃ result, (check session disk path).1 = .ok result ∧
      result.findings.map wordAndSuggestions
        = (document.lines.flatMap (flagged session.workspace)).map
          fun token => (token.text, nearMatches session.checker token.text) := by
  have findings := findings_reportsFrom session.workspace [] document.lines rfl
  rw [List.length_nil] at findings
  refine ⟨_, by simp only [check, opened, reported]; rfl, ?_⟩
  rw [List.map_map]
  exact findings

end Orthography.Files
