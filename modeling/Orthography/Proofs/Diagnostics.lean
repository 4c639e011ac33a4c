import Orthography.Proofs.Files.Check

/-!
# Where diagnostics stand

The diagnostics of a document are one warning for each token that has to be corrected, on each line
without a scripture reference, and nothing else.  They come in the order of the lines and, on one
line, from left to right; no two of them overlap; and each one stands exactly around its token, so
that the text between its two columns is the token again (`Session.OnlySpelling.diagnostics_exact`).

The order on one line is that of tokens that are laid out in it (`Token.Laid.pairwise`); that on
different lines comes from the numbers of the lines (`Spelling.pairwise_lines`).
-/

namespace Orthography

set_option autoImplicit false

namespace Token

/-- Tokens that stand one after the other in a text do not overlap. -/
theorem Laid.pairwise {text : List Char} {column : Nat} {tokens : List Token}
    (laid : Laid text column tokens) :
    (∀ token ∈ tokens, column ≤ token.start) ∧
      tokens.Pairwise fun first second => first.stop ≤ second.start := by
  induction laid with
  | none => exact ⟨fun _ impossible => absurd impossible List.not_mem_nil, List.Pairwise.nil⟩
  | @next gap token rest column tokens letters start stop after ih =>
    obtain ⟨later, apart⟩ := ih
    refine ⟨?_, List.pairwise_cons.mpr ⟨later, apart⟩⟩
    intro other member
    rcases List.mem_cons.mp member with rfl | member
    · omega
    · have behind := later other member
      omega

end Token

namespace Spelling

variable (workspace : Workspace)

/-- The first of two diagnostics ends before the second one starts: on an earlier line, or on the
same line and not to the right of its start. -/
def Precedes (first second : Placed) : Prop :=
  first.range.stop.line < second.range.start.line ∨
    first.range.stop.line = second.range.start.line ∧
      first.range.stop.character ≤ second.range.start.character

/-- The warnings about lines are those about each line with its number. -/
theorem reportsFrom_eq_flatMap (index : Nat) (lines : List String) :
    reportsFrom workspace index lines
      = (lines.zipIdx index).flatMap fun numbered =>
          (flagged workspace numbered.1).map (report numbered.2) := by
  induction lines generalizing index with
  | nil => rfl
  | cons line rest ih => rw [reportsFrom, ih, List.zipIdx_cons, List.flatMap_cons]

/-- The warnings about one line do not overlap. -/
theorem pairwise_line (index : Nat) (line : String) :
    ((flagged workspace line).map (report index)).Pairwise Precedes := by
  rw [List.pairwise_map]
  refine (laid_flagged workspace line).pairwise.2.imp ?_
  intro first second apart
  exact .inr ⟨rfl, apart⟩

/-- Later lines have greater numbers. -/
theorem pairwise_lines (index : Nat) (lines : List String) :
    (lines.zipIdx index).Pairwise fun first second => first.2 < second.2 := by
  rw [← List.pairwise_map (f := Prod.snd), List.zipIdx_map_snd]
  exact List.pairwise_lt_range'

/-- The warnings about lines come one after the other and do not overlap. -/
theorem pairwise_reportsFrom (index : Nat) (lines : List String) :
    (reportsFrom workspace index lines).Pairwise Precedes := by
  rw [reportsFrom_eq_flatMap, List.pairwise_flatMap]
  refine ⟨fun numbered _ => pairwise_line workspace numbered.2 numbered.1, ?_⟩
  refine (pairwise_lines index lines).imp ?_
  intro first second below placed here other there
  obtain ⟨token, _, rfl⟩ := List.mem_map.mp here
  obtain ⟨later, _, rfl⟩ := List.mem_map.mp there
  exact .inl below

/-- Every warning about lines is one about a flagged token of a line. -/
theorem exists_of_mem_reportsFrom {lines : List String} {placed : Placed}
    (member : placed ∈ reportsFrom workspace 0 lines) :
    ∃ index line, lines[index]? = some line ∧
      ∃ token ∈ flagged workspace line, placed = report index token := by
  rw [reportsFrom_eq_flatMap] at member
  obtain ⟨⟨line, index⟩, numbered, here⟩ := List.mem_flatMap.mp member
  obtain ⟨token, flag, rfl⟩ := List.mem_map.mp here
  rw [List.mem_zipIdx_iff_getElem?] at numbered
  exact ⟨index, line, numbered, token, flag, rfl⟩

/-- A flagged token takes some columns of its line. -/
theorem columns_of_mem_flagged {line : String} {token : Token}
    (flag : token ∈ flagged workspace line) :
    token.start < token.stop ∧ token.stop ≤ Columns.width line.toList := by
  have nothing : Columns.width [] = 0 := rfl
  obtain ⟨front, back, whole, stands⟩ := (laid_flagged workspace line).exists_front nothing flag
  rw [List.nil_append] at whole
  have letters := Columns.width_pos stands.letters
  rw [whole, Columns.width_append, Columns.width_append, stands.start, stands.stop]
  omega

end Spelling

namespace Files

open Spelling (Precedes report reportsFrom flagged)

/-- A diagnostic stands exactly around a token of a line of a document. -/
structure StandsAround (checker : Checker) (document : Document) (diagnostic : Placed)
    (line : String) (token : Token) : Prop where
  /-- It starts on this line. -/
  here : document.line? diagnostic.range.start.line = some line
  /-- It ends on the same line. -/
  oneLine : diagnostic.range.stop.line = diagnostic.range.start.line
  /-- It is not empty. -/
  filled : diagnostic.range.start.character < diagnostic.range.stop.character
  /-- Its columns are those of the line. -/
  inside : diagnostic.range.stop.character ≤ Columns.width line.toList
  /-- The text between its two columns is the token. -/
  slice :
    Columns.slice line.toList diagnostic.range.start.character diagnostic.range.stop.character
      = token.text.toList
  /-- The token is the word that is reported. -/
  word : (finding checker document diagnostic).word = token.text

/-- The warning about a flagged token stands exactly around it. -/
theorem standsAround_report {workspace : Workspace} {document : Document} {index : Nat}
    {line : String} (here : document.line? index = some line) {token : Token}
    (flag : token ∈ flagged workspace line) :
    StandsAround workspace.checker document (report index token) line token := by
  have nothing : Columns.width [] = 0 := rfl
  obtain ⟨front, back, whole, stands⟩ :=
    (Spelling.laid_flagged workspace line).exists_front nothing flag
  rw [List.nil_append] at whole
  have there : document.line? index
      = some (String.ofList (front ++ token.text.toList ++ back)) := by
    rw [here, ← whole, String.ofList_toList]
  have start : (report index token).range.start.character = Columns.width front := stands.start
  have stop : (report index token).range.stop.character
      = Columns.width front + Columns.width token.text.toList := stands.stop
  obtain ⟨filled, inside⟩ := Spelling.columns_of_mem_flagged workspace flag
  refine ⟨here, rfl, filled, inside, ?slice, word_report workspace.checker stands there⟩
  case slice =>
    rw [start, stop, whole, Columns.slice_between]

end Files

namespace Session

open Spelling (Precedes report reportsFrom)
open Files (StandsAround)

/-- The diagnostics of a document are exactly as they are meant to be. -/
structure DiagnosesExactly (session : Session) (document : Document) : Prop where
  /-- There is one warning for each token that has to be corrected, on each line without a scripture
  reference, line by line and token by token, and nothing else. -/
  each : (session.diagnostics document).1
    = document.lines.zipIdx.flatMap fun numbered =>
        if Word.isScriptureReference numbered.1 then []
        else
          ((Token.ofLine numbered.1).filter fun token =>
            session.checker.needsCorrection token.text).map (report numbered.2)
  /-- They are in ascending order, and no two of them overlap. -/
  ordered : (session.diagnostics document).1.Pairwise Precedes
  /-- Each stands around one of these tokens, and its place is made of numbers of 32 bits. -/
  placed : ∀ diagnostic ∈ (session.diagnostics document).1, ∃ line, ∃ token ∈ Token.ofLine line,
    StandsAround session.checker document diagnostic line token ∧
      session.checker.needsCorrection token.text = true ∧
      diagnostic.range.start.line < Nat.pow 2 32 ∧
      diagnostic.range.stop.character < Nat.pow 2 32

/-- **The diagnostics are exact and correctly placed.**  In a session with the spelling analyzers and
no others, a document with fewer lines than 32 bits can number, and lines with fewer columns, has one
diagnostic for each token that has to be corrected and no other; they come in ascending order without
overlap; and the text between the columns of each is its token, which is the word that is
reported. -/
theorem OnlySpelling.diagnostics_exact {session : Session} (only : session.OnlySpelling)
    {document : Document} (numbered : document.lines.length < Nat.pow 2 32)
    (narrow : ∀ line ∈ document.lines, Columns.width line.toList < Nat.pow 2 32) :
    DiagnosesExactly session document := by
  have reported := only.diagnostics_eq (Nat.le_of_lt numbered)
  refine ⟨?each, ?ordered, ?placed⟩
  case each =>
    rw [reported, Spelling.reportsFrom_eq_flatMap]
    congr 1
    funext numbered
    rw [Spelling.flagged]
    split <;> rfl
  case ordered =>
    rw [reported]
    exact Spelling.pairwise_reportsFrom session.workspace 0 document.lines
  case placed =>
    intro diagnostic member
    rw [reported] at member
    obtain ⟨index, line, here, token, flag, rfl⟩ :=
      Spelling.exists_of_mem_reportsFrom session.workspace member
    have stands : StandsAround session.checker document (report index token) line token :=
      Files.standsAround_report here flag
    have bound := narrow line (List.mem_of_getElem? here)
    have inside : index < document.lines.length := (List.getElem?_eq_some_iff.mp here).1
    obtain ⟨-, token_of_line, needs⟩ := (Spelling.mem_flagged session.workspace).mp flag
    exact ⟨line, token, token_of_line, stands, needs, Nat.lt_trans inside numbered,
      Nat.lt_of_le_of_lt stands.inside bound⟩

/-- A session that knows one word. -/
def helloSession : Session :=
  { workspace :=
      { configuration := Configuration.default
        settings := {}
        lexicon :=
          { Lexicon.inMemory with
            index := Lexicon.addEntries KeyMap.empty [Entry.ofWord "hello" .verified ⟨0⟩] } }
    registry := initialRegistry Configuration.default }

/-- A document with a character that takes two columns, a combining mark, and a line with a scripture
reference. -/
def helloDraft : Document :=
  ⟨"draft", ["😀 Helo, «hello»!", "GEN 1:1 Helo", "Hello wo\u0301rd"]⟩

/-- Two words of the draft are flagged, the second one with its mark. -/
theorem diagnostics_exact_helloDraft :
    helloSession.OnlySpelling ∧ helloDraft.lines.length < Nat.pow 2 32 ∧
      (∀ line ∈ helloDraft.lines, Columns.width line.toList < Nat.pow 2 32) ∧
      (helloSession.diagnostics helloDraft).1.map Placed.range
        = [Range.onLine 0 3 7, Range.onLine 2 6 11] ∧
      DiagnosesExactly helloSession helloDraft := by
  have only : helloSession.OnlySpelling := slot_initialRegistry Configuration.default
  have numbered : helloDraft.lines.length < Nat.pow 2 32 := by decide +kernel
  have narrow : ∀ line ∈ helloDraft.lines, Columns.width line.toList < Nat.pow 2 32 := by
    decide +kernel
  exact ⟨only, numbered, narrow, by decide +kernel, only.diagnostics_exact numbered narrow⟩

end Session

end Orthography
