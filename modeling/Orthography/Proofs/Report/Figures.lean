import Mathlib.Data.List.DropRight
import Orthography.Proofs.Json.Fraction
import Orthography.Proofs.Json.Printed
import Orthography.Proofs.Report.Colour
import Orthography.Report.Json

/-!
# The figures of a report

A report of a check says how much was found in how many files.  In the text both numbers stand in the
last line, as the second and the sixth of its words; a last line of other words gives no numbers
(`Report.Figures.ofText?`).  In the JSON document they stand under their names, with the findings in a
list (`Report.Figures.ofJson?`).

Whatever is printed before it, and with or without colour, the numbers in a summary are those that it
was made with (`Report.Figures.ofText?_checkSummary`), and those in a document are the numbers of its
findings and of its files (`Report.Figures.ofJson?_jsonText`).
-/

namespace Orthography.Report

set_option autoImplicit false

/-- What a report says about its extent. -/
structure Figures where
  /-- How many findings there are. -/
  findings : Nat
  /-- How many files they are counted in. -/
  files : Nat
deriving DecidableEq, Repr

/-! ## The last line of a text -/

/-- The last line of a text whose lines are all ended. -/
def lastLine (text : List Char) : List Char :=
  text.dropLast.rtakeWhile (· ≠ '\n')

theorem lastLine_append {last : List Char} (single : '\n' ∉ last) (front : List Char) :
    lastLine (front ++ '\n' :: (last ++ ['\n'])) = last := by
  have inLine : ∀ c ∈ last.reverse, decide (c ≠ '\n') = true := by
    intro c member
    apply decide_eq_true
    rintro rfl
    exact single (List.mem_reverse.mp member)
  have text : front ++ '\n' :: (last ++ ['\n']) = (front ++ '\n' :: last) ++ ['\n'] := by
    rw [List.append_assoc, List.cons_append]
  rw [lastLine, text, List.dropLast_concat, List.rtakeWhile, List.reverse_append, List.reverse_cons,
    List.append_assoc, List.takeWhile_append_of_pos inLine]
  simp

/-! ## The sentence of a summary -/

/-- The sentence that a summary consists of. -/
def summarySentence (colour : Bool) (findings files : Nat) : String :=
  if findings = 0 then strong colour .green "✓ No spelling errors found!"
  else
    strong colour .red "✗" ++ " " ++ strong colour .red (Decimal.ofNat findings) ++ " "
      ++ plural findings "error" "errors" ++ " found in " ++ Decimal.ofNat files ++ " "
      ++ plural files "file" "files"

theorem checkSummary_eq (colour : Bool) (findings files : Nat) :
    checkSummary colour findings files = "\n" ++ line (summarySentence colour findings files) := by
  rw [checkSummary, summarySentence]
  split <;> rfl

/-- The words of the sentence, if there are findings. -/
def summaryWords (findings files : Nat) : List (List Char) :=
  [['✗'], Decimal.digits findings, (plural findings "error" "errors").toList, "found".toList,
    "in".toList, Decimal.digits files, (plural files "file" "files").toList]

/-- The sentence without colour is its words with spaces between them. -/
theorem toList_summarySentence {findings : Nat} (found : findings ≠ 0) (files : Nat) :
    (summarySentence false findings files).toList
      = [' '].intercalate (summaryWords findings files) := by
  have blanks : " found in ".toList = ' ' :: ("found".toList ++ ' ' :: ("in".toList ++ [' '])) := rfl
  have blank : " ".toList = [' '] := rfl
  have cross : "✗".toList = ['✗'] := rfl
  simp only [summarySentence, if_neg found, strong, paint, Bool.false_eq_true, if_false,
    String.toList_append, Decimal.ofNat, String.toList_ofList, summaryWords, blanks, blank, cross]
  simp [List.intercalate]

/-- No word of the sentence has a space in it. -/
theorem blank_not_mem_summaryWords (findings files : Nat) :
    ∀ word ∈ summaryWords findings files, ' ' ∉ word := by
  have digits (n : Nat) : ' ' ∉ Decimal.digits n := Decimal.not_mem_digits (by decide) n
  have errors : ∀ count, ' ' ∉ (plural count "error" "errors").toList :=
    not_mem_plural (by decide) (by decide)
  have places : ∀ count, ' ' ∉ (plural count "file" "files").toList :=
    not_mem_plural (by decide) (by decide)
  intro word member
  simp only [summaryWords, List.mem_cons, List.not_mem_nil, or_false] at member
  rcases member with rfl | rfl | rfl | rfl | rfl | rfl | rfl
  · decide
  · exact digits findings
  · exact errors findings
  · decide
  · decide
  · exact digits files
  · exact places files

/-- Painting a text does not break its line. -/
theorem newline_not_mem_paint {text : String} (plain : Unescaped text) (single : '\n' ∉ text.toList)
    (colour : Bool) (style : Style) : '\n' ∉ (paint colour style text).toList := by
  cases colour with
  | false => exact single
  | true =>
    have codes : '\n' ∉ (";".intercalate style.codes).toList := by
      intro member
      have parameter := List.all_eq_true.mp (all_isParameter_codes style) '\n' member
      revert parameter
      decide
    rw [toList_paint plain]
    simpa [Style.on, Style.off, single] using codes

/-- The sentence stands on one line. -/
theorem newline_not_mem_summarySentence (colour : Bool) (findings files : Nat) :
    '\n' ∉ (summarySentence colour findings files).toList := by
  have number (n : Nat) : '\n' ∉ (Decimal.ofNat n).toList := by
    rw [Decimal.ofNat, String.toList_ofList]
    exact Decimal.not_mem_digits (by decide) n
  have errors : ∀ count, '\n' ∉ (plural count "error" "errors").toList :=
    not_mem_plural (by decide) (by decide)
  have places : ∀ count, '\n' ∉ (plural count "file" "files").toList :=
    not_mem_plural (by decide) (by decide)
  rw [summarySentence]
  split
  · exact newline_not_mem_paint (by decide) (by decide) colour _
  · have cross : '\n' ∉ (strong colour .red "✗").toList :=
      newline_not_mem_paint (by decide) (by decide) colour _
    have count : '\n' ∉ (strong colour .red (Decimal.ofNat findings)).toList :=
      newline_not_mem_paint (unescaped_ofNat findings) (number findings) colour _
    simp only [String.toList_append, List.mem_append, not_or]
    exact ⟨⟨⟨⟨⟨⟨⟨⟨cross, by decide⟩, count⟩, by decide⟩, errors findings⟩, by decide⟩,
      number files⟩, by decide⟩, places files⟩

/-- In colour the sentence reads as without it. -/
theorem reads_summarySentence (colour : Bool) {findings : Nat} (found : findings ≠ 0) (files : Nat) :
    Reads (summarySentence colour findings files) (summarySentence false findings files) := by
  have errors : Unescaped (plural findings "error" "errors") :=
    unescaped_plural (by decide) (by decide) findings
  have places : Unescaped (plural files "file" "files") :=
    unescaped_plural (by decide) (by decide) files
  rw [summarySentence, summarySentence, if_neg found, if_neg found]
  cases colour with
  | true => exact reads_tally .red (by decide) errors (by decide) findings files
  | false =>
    apply Reads.self
    simp only [strong, paint, Bool.false_eq_true, if_false, unescaped_append_iff]
    exact ⟨⟨⟨⟨⟨⟨⟨⟨by decide, by decide⟩, unescaped_ofNat findings⟩, by decide⟩, errors⟩, by decide⟩,
      unescaped_ofNat files⟩, by decide⟩, places⟩

/-! ## Figures in a text -/

namespace Figures

/-- The figures in the last line of a printed text, if there are any. -/
def ofText? (printed : String) : Option Figures :=
  match List.splitOn ' ' (shown (lastLine printed.toList)) with
  | [_, findings, _, _, _, files, _] => some ⟨Decimal.value findings, Decimal.value files⟩
  | _ => none

/-- **The figures of a summary are those that it was made with**, whatever is printed before it.  A
summary without findings has none. -/
theorem ofText?_checkSummary (colour : Bool) (front : String) (findings files : Nat) :
    ofText? (front ++ checkSummary colour findings files)
      = if findings = 0 then none else some ⟨findings, files⟩ := by
  have last : lastLine (front ++ checkSummary colour findings files).toList
      = (summarySentence colour findings files).toList := by
    rw [checkSummary_eq, line, String.toList_append, String.toList_append, String.toList_append]
    exact lastLine_append (newline_not_mem_summarySentence colour findings files) front.toList
  rw [ofText?, last]
  by_cases found : findings = 0
  · rw [if_pos found, summarySentence, if_pos found]
    cases colour <;> decide +kernel
  · have sentence : shown (summarySentence colour findings files).toList
        = [' '].intercalate (summaryWords findings files) := by
      rw [ShowsAs.shown_eq (reads_summarySentence colour found files), toList_summarySentence found]
    rw [sentence, List.splitOn_intercalate ' ' (blank_not_mem_summaryWords findings files)
      (List.cons_ne_nil _ _), summaryWords, if_neg found]
    simp only [Decimal.value_digits]

/-- Only the last line counts. -/
example :
    ofText? "\ndraft\n  1:1 helo in 3 of 4 files\n\n✗ 1 error found in 2 files\n" = some ⟨1, 2⟩ := by
  decide +kernel

end Figures

/-! ## Figures in a document -/

/-- A document and a line break behind it are read as the form of the document. -/
theorem ofText?_line_pretty (value : Json) :
    Json.Form.ofText? ((line value.pretty).toList.map some) = some value.toForm := by
  have text : (line value.pretty).toList.map some
      = value.pretty.toList.map some ++ ((Json.newline 0).map some ++ []) := by
    rw [line, String.toList_append, List.map_append]
    rfl
  rw [text]
  exact Json.Form.ofText?_pretty_append (fun n _ => n.legible) (Json.endsNumber_newline 0 []) rfl

/-- The form of the member of a document with a name. -/
def member? (form : Json.Form) (name : String) : Option Json.Form :=
  match form with
  | .object members => members.lookup (some name.toList)
  | _ => none

namespace Figures

/-- The figures of a printed document, with its list of findings. -/
def ofJson? (printed : String) : Option (Figures × List Json.Form) :=
  match Json.Form.ofText? (printed.toList.map some) with
  | none => none
  | some form =>
    match member? form "files_checked", member? form "total_errors", member? form "errors" with
    | some (.number files), some (.number findings), some (.array listed) =>
      some (⟨Decimal.value findings, Decimal.value files⟩, listed)
    | _, _, _ => none

/-- **The figures of a document are the numbers of its findings and files.** -/
theorem ofJson?_jsonText (results : List (String × CheckResult)) :
    ofJson? (jsonText results)
      = some (⟨(allFindings results).length, results.length⟩,
          (allFindings results).map Json.toForm) := by
  have files : member? (document results).toForm "files_checked"
      = some (.number (Decimal.digits results.length)) := rfl
  have findings : member? (document results).toForm "total_errors"
      = some (.number (Decimal.digits (allFindings results).length)) := rfl
  have listed : member? (document results).toForm "errors"
      = some (.array (Json.itemForms (allFindings results))) := rfl
  rw [ofJson?, jsonText, ofText?_line_pretty]
  simp only [files, findings, listed, Decimal.value_digits, Json.itemForms_eq_map]

end Figures

end Orthography.Report
