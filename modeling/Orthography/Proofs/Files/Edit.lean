import Orthography.Proofs.Files.Fix
import Orthography.Proofs.Text.Replacement

/-!
# Three ways to replace a token

A token of a line can be replaced by its bytes (`Token.replace`), by an edit with a span around the
token (`tokenEdit`), or by an edit of the whole line (`lineEdit`).  The three agree
(`Files.edits_agree`), whatever characters stand before, in and after the token: the bytes, the
columns of the token and the width of the line all lead to the same parts of the line.

Both edits are cases of one: an edit between two columns of a line that are around some part of it
(`Files.editsTo_onLine`).  The part is the token in one case and the whole line in the other.
-/

namespace Orthography

set_option autoImplicit false

/-- The edit that puts some text in the place of a token, as a suggestion with a span. -/
def Suggestion.tokenEdit (suggestion : Suggestion) (index : Nat) (token : Token)
    (replacement : String) : Suggestion :=
  { suggestion with
    edit := some replacement
    line := some index
    span := some (Span.between token.start token.stop) }

/-- The edit that puts some text in the place of a line, as a suggestion for the whole line. -/
def Suggestion.lineEdit (suggestion : Suggestion) (index : Nat) (replacement : String) :
    Suggestion :=
  { suggestion with
    edit := some replacement
    line := some index
    span := none }

namespace Document

/-- Two documents differ in one line at most. -/
structure SameButLine (document after : Document) (index : Nat) : Prop where
  uri : after.uri = document.uri
  count : after.lines.length = document.lines.length
  others : ∀ other, other ≠ index → after.line? other = document.line? other

/-- Replacing a line leaves all else as it is. -/
theorem sameButLine_setLine (document : Document) (index : Nat) (line : String) :
    SameButLine document (document.setLine index line) index := by
  refine ⟨rfl, List.length_set, fun other different => ?_⟩
  exact List.getElem?_set_ne different.symm

end Document

namespace Files

variable {document : Document} {index : Nat}

/-- An edit leads from one document to another, and says whether that changed anything. -/
structure EditsTo (document : Document) (placed : Placed) (after : Document) (changes : Prop) :
    Prop where
  document_eq : (applyEdit document placed).getD document = after
  changed_iff : (applyEdit document placed).isSome = true ↔ changes

/-- **An edit between two columns of a line** replaces the part of the line that they are around. -/
theorem editsTo_onLine (suggestion : Suggestion) {front middle back : List Char}
    (here : document.line? index = some (String.ofList (front ++ middle ++ back)))
    {edit : String} (offered : suggestion.edit = some edit) :
    EditsTo document
      ⟨suggestion,
        Range.onLine index (Columns.width front) (Columns.width front + Columns.width middle)⟩
      (document.setLine index (String.ofList (front ++ edit.toList ++ back)))
      (edit.toList ≠ middle) := by
  have run := applyEdit_onLine here offered
  by_cases same : edit.toList = middle
  · rw [if_pos same] at run
    constructor
    · rw [run, same]
      exact (Document.setLine_line here).symm
    · simp [run, same]
  · rw [if_neg same] at run
    constructor
    · rw [run, Option.getD_some]
    · simp [run, same]

/-! ## The two edits -/

section Edits

variable {line : String} {token : Token} (suggestion : Suggestion) (replacement : String)

/-- The columns of a token are those of its line. -/
theorem stop_le_width (member : token ∈ Token.ofLine line) :
    token.stop ≤ Columns.width line.toList := by
  obtain ⟨front, back, rfl, stands, -⟩ := Token.exists_replace_eq member
  rw [stands.stop, String.toList_ofList, Columns.width_append, Columns.width_append]
  exact Nat.le_add_right _ _

/-- An edit with a span around a token is placed at the token. -/
theorem range_tokenEdit (document : Document) (numbered : index < Nat.pow 2 32)
    (member : token ∈ Token.ofLine line) :
    (suggestion.tokenEdit index token replacement).range document
      = Range.onLine index token.start token.stop := by
  have ordered : token.start ≤ token.stop := (Token.laid_ofLine line).start_le_stop member
  simp only [Suggestion.tokenEdit, Suggestion.range, Span.between, Nat.min_eq_left ordered,
    Nat.max_eq_right ordered, Nat.mod_eq_of_lt numbered]

/-- An edit of a whole line is placed from the first column of the line to the last one. -/
theorem range_lineEdit (numbered : index < Nat.pow 2 32)
    (here : document.line? index = some line) :
    (suggestion.lineEdit index replacement).range document
      = Range.onLine index 0 (Columns.width line.toList) := by
  simp only [Suggestion.lineEdit, Suggestion.range, here, Nat.mod_eq_of_lt numbered]

/-- An edit with a span around a token replaces the token. -/
theorem editsTo_tokenEdit (numbered : index < Nat.pow 2 32)
    (here : document.line? index = some line) (member : token ∈ Token.ofLine line) :
    EditsTo document ((suggestion.tokenEdit index token replacement).place document)
      (document.setLine index (token.replace line replacement)) (replacement ≠ token.text) := by
  have place := range_tokenEdit suggestion replacement document numbered member
  obtain ⟨front, back, rfl, stands, replaced⟩ := Token.exists_replace_eq member
  have edits := editsTo_onLine (suggestion.tokenEdit index token replacement) here rfl
  rw [← stands.stop, ← stands.start, ← place, ← replaced, ne_eq, String.toList_inj] at edits
  exact edits

/-- An edit of a whole line replaces the line. -/
theorem editsTo_lineEdit (numbered : index < Nat.pow 2 32)
    (here : document.line? index = some line) :
    EditsTo document ((suggestion.lineEdit index replacement).place document)
      (document.setLine index replacement) (replacement ≠ line) := by
  have place := range_lineEdit suggestion replacement numbered here
  have whole : document.line? index = some (String.ofList ([] ++ line.toList ++ [])) := by
    rw [List.nil_append, List.append_nil, String.ofList_toList, here]
  have edits := editsTo_onLine (suggestion.lineEdit index replacement) whole rfl
  rw [Columns.width, Nat.zero_add, ← place, List.nil_append, List.append_nil,
    String.ofList_toList, ne_eq, String.toList_inj] at edits
  exact edits

/-- Replacing a token changes its line unless the token is replaced by itself. -/
theorem replace_eq_line_iff (member : token ∈ Token.ofLine line) :
    token.replace line replacement = line ↔ replacement = token.text := by
  obtain ⟨front, back, whole, -, replaced⟩ := Token.exists_replace_eq member
  rw [replaced, whole, String.ofList_inj, List.append_left_inj, List.append_right_inj,
    String.toList_inj]

end Edits

/-- **The ways to replace a token of a line agree.**  On a line that an editor can number, with
columns that it can count, an edit with a span around a token and an edit of the whole line both lead
to the document in which the token is replaced by its bytes.  No other line changes, and both edits
say that they changed something exactly if the replacement is not the token itself. -/
theorem edits_agree {line : String} {token : Token}
    (numbered : document.lines.length < Nat.pow 2 32)
    (here : document.line? index = some line)
    (narrow : Columns.width line.toList < Nat.pow 2 32) (member : token ∈ Token.ofLine line)
    (replacement : String) (first second : Suggestion) :
    let replaced := token.replace line replacement
    let after := document.setLine index replaced
    let spanned := (first.tokenEdit index token replacement).place document
    let whole := (second.lineEdit index replaced).place document
    EditsTo document spanned after (replacement ≠ token.text) ∧
      EditsTo document whole after (replacement ≠ token.text) ∧
      (after.line? index = some replaced ∧ document.SameButLine after index) ∧
      spanned.range = Range.onLine index token.start token.stop ∧ token.stop < Nat.pow 2 32 ∧
      whole.range = Range.onLine index 0 (Columns.width line.toList) := by
  intro replaced after spanned whole
  have inside : index < document.lines.length := (List.getElem?_eq_some_iff.mp here).1
  have counted : index < Nat.pow 2 32 := Nat.lt_trans inside numbered
  refine ⟨editsTo_tokenEdit first replacement counted here member, ?whole,
    ⟨Document.line?_setLine here replaced, Document.sameButLine_setLine document index replaced⟩,
    range_tokenEdit first replacement document counted member,
    Nat.lt_of_le_of_lt (stop_le_width member) narrow, range_lineEdit second replaced counted here⟩
  case whole =>
    have edits := editsTo_lineEdit second replaced counted here
    have changes : replaced ≠ line ↔ replacement ≠ token.text :=
      not_congr (replace_eq_line_iff replacement member)
    exact ⟨edits.document_eq, edits.changed_iff.trans changes⟩

/-- A document whose second line starts with a character of two columns and has a word with a
character of two columns in it. -/
def boldDraft : Document :=
  ⟨"draft", ["Grace", "😀 «𝗛élo»"]⟩

/-- The word in the second line of the draft. -/
def boldToken : Token :=
  ⟨"𝗛élo", 7, 4, 9⟩

/-- A correction of the word. -/
def boldFix : Suggestion :=
  { message := "𝗛élo → Hello", source := Spelling.source }

/-- The word and the line are replaced alike, and the quotes around the word stay. -/
theorem edits_agree_boldDraft :
    boldDraft.lines.length < Nat.pow 2 32 ∧ boldDraft.line? 1 = some "😀 «𝗛élo»" ∧
      Columns.width "😀 «𝗛élo»".toList < Nat.pow 2 32 ∧
      boldToken ∈ Token.ofLine "😀 «𝗛élo»" ∧
      boldToken.replace "😀 «𝗛élo»" "Hello" = "😀 «Hello»" ∧
      EditsTo boldDraft ((boldFix.tokenEdit 1 boldToken "Hello").place boldDraft)
        ⟨"draft", ["Grace", "😀 «Hello»"]⟩ ("Hello" ≠ boldToken.text) ∧
      EditsTo boldDraft ((boldFix.lineEdit 1 "😀 «Hello»").place boldDraft)
        ⟨"draft", ["Grace", "😀 «Hello»"]⟩ ("Hello" ≠ boldToken.text) := by
  have numbered : boldDraft.lines.length < Nat.pow 2 32 := by decide +kernel
  have here : boldDraft.line? 1 = some "😀 «𝗛élo»" := rfl
  have narrow : Columns.width "😀 «𝗛élo»".toList < Nat.pow 2 32 := by decide +kernel
  have member : boldToken ∈ Token.ofLine "😀 «𝗛élo»" := by decide +kernel
  have replaced : boldToken.replace "😀 «𝗛élo»" "Hello" = "😀 «Hello»" := by decide +kernel
  obtain ⟨spanned, whole, -⟩ := edits_agree numbered here narrow member "Hello" boldFix boldFix
  rw [replaced] at spanned whole
  exact ⟨numbered, here, narrow, member, replaced, spanned, whole⟩

end Files

end Orthography
