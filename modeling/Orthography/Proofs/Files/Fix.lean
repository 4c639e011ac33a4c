import Orthography.Files.Fix
import Orthography.Proofs.Files.Check
import Orthography.Proofs.Storage.Disk
import Orthography.Proofs.Text.Bytes

/-!
# Fixing is simultaneous substitution

Fixing edits a document one diagnostic at a time, and every edit goes by columns of the document as
it was.  What comes out is nevertheless the same as replacing all flagged tokens at once.  The reason
is the order: the edits go from right to left, so that the text up to the end of a token is still the
text of the file when the token is replaced.

One edit replaces the token that it is about, whatever follows the token by then (`correct_report`).
From it follow, by induction over the tokens, what the edits of one line come to
(`foldr_correct_line`) and, by induction over the lines, what all of them come to
(`foldr_correct_lines`).
-/

namespace Orthography

set_option autoImplicit false

namespace Document

/-- Replacing a line by itself changes nothing. -/
theorem setLine_line {document : Document} {index : Nat} {line : String}
    (here : document.line? index = some line) : document.setLine index line = document := by
  obtain ⟨inside, there⟩ := List.getElem?_eq_some_iff.mp here
  rw [setLine, ← there, List.set_getElem_self]

/-- The last replacement of a line counts. -/
theorem setLine_setLine (document : Document) (index : Nat) (first second : String) :
    (document.setLine index first).setLine index second = document.setLine index second := by
  simp only [setLine, List.set_set]

/-- A line that was replaced is the new one. -/
theorem line?_setLine {document : Document} {index : Nat} {old : String}
    (here : document.line? index = some old) (line : String) :
    (document.setLine index line).line? index = some line := by
  obtain ⟨inside, _⟩ := List.getElem?_eq_some_iff.mp here
  exact List.getElem?_set_self inside

end Document

namespace Files

open Spelling (flagged report reportsFrom)

variable (checker : Checker)

/-! ## One token -/

/-- What is put in the place of a flagged token: its nearest correction, if there is one. -/
def replacement (token : Token) : String :=
  (nearMatches checker token.text).headD token.text

/-- Whether something else is put in the place of a flagged token. -/
def replaces (token : Token) : Bool :=
  replacement checker token ≠ token.text

variable {document : Document} {index : Nat} {token : Token} {front back : List Char}

/-- An edit between two columns of a line replaces the part of the line that they are around, unless
it is that part itself. -/
theorem applyEdit_onLine {suggestion : Suggestion} {middle : List Char} {edit : String}
    (line : document.line? index = some (String.ofList (front ++ middle ++ back)))
    (offered : suggestion.edit = some edit) :
    applyEdit document
        ⟨suggestion,
          Range.onLine index (Columns.width front) (Columns.width front + Columns.width middle)⟩
      = if edit.toList = middle then none
        else some (document.setLine index (String.ofList (front ++ edit.toList ++ back))) := by
  simp only [applyEdit, offered, Range.onLine, ne_eq, not_true_eq_false, if_false, line,
    String.toList_ofList, Columns.slice_between, Columns.splice_between, eq_comm]

/-- An edit in the place of a token replaces the token, unless it is the token itself. -/
theorem applyEdit_report (edit : String) (stands : token.StandsAfter front)
    (line : document.line? index = some (String.ofList (front ++ token.text.toList ++ back))) :
    applyEdit document
        { report index token with
          suggestion := { (report index token).suggestion with edit := some edit } }
      = if edit = token.text then none
        else some (document.setLine index (String.ofList (front ++ edit.toList ++ back))) := by
  have place : (report index token).range
      = Range.onLine index (Columns.width front)
          (Columns.width front + Columns.width token.text.toList) := by
    rw [report, stands.start, stands.stop]
  dsimp only
  rw [place, applyEdit_onLine line rfl]
  simp only [String.toList_inj]

/-- **One correction replaces its token.**  The text before the token has to be that of the file;
the text after it can be anything. -/
theorem correct_report (count : Nat) (stands : token.StandsAfter front)
    (line : document.line? index = some (String.ofList (front ++ token.text.toList ++ back))) :
    correct checker (document, count) (report index token)
      = (document.setLine index
          (String.ofList (front ++ (replacement checker token).toList ++ back)),
        count + if replaces checker token then 1 else 0) := by
  have inPlace : (report index token).suggestion.isWholeLine = false := rfl
  have offered := suggestions_report checker stands line
  cases near : nearMatches checker token.text with
  | nil =>
    have kept : replacement checker token = token.text := by rw [replacement, near]; rfl
    have once : replaces checker token = false := by simp [replaces, kept]
    have none : correction? checker document (report index token) = none := by
      rw [correction?, inPlace, offered, near]
      rfl
    rw [correct, none, kept, Document.setLine_line line, once]
    rfl
  | cons nearest others =>
    have new : replacement checker token = nearest := by rw [replacement, near]; rfl
    have found : correction? checker document (report index token)
        = some { report index token with
            suggestion := { (report index token).suggestion with edit := some nearest } } := by
      rw [correction?, inPlace, offered, near]
      rfl
    rw [correct, found, Option.bind_some, applyEdit_report nearest stands line, new]
    by_cases same : nearest = token.text
    · have once : replaces checker token = false := by simp [replaces, new, same]
      rw [if_pos same, same, Document.setLine_line line, once]
      rfl
    · have once : replaces checker token = true := by simp [replaces, new, same]
      rw [if_neg same, once]
      rfl

/-! ## One line -/

/-- The corrections of a line from some column on, from right to left, replace all tokens that stand
there at once. -/
theorem foldr_correct_line {text : List Char} {column : Nat} {tokens : List Token}
    (laid : Token.Laid text column tokens) (wide : Columns.width front = column)
    (line : document.line? index = some (String.ofList (front ++ text))) (count : Nat) :
    (tokens.map (report index)).foldr (fun placed state => correct checker state placed)
        (document, count)
      = (document.setLine index (String.ofList
          (front ++ Token.substituteFrom (replacement checker) (front ++ text) column tokens)),
        count + tokens.countP (replaces checker)) := by
  induction laid generalizing front with
  | none text column =>
    rw [Token.substituteFrom_none _ text wide, Document.setLine_line line]
    rfl
  | @next gap token rest column tokens letters start stop after ih =>
    have stands : token.StandsAfter (front ++ gap) :=
      ⟨letters, by rw [Columns.width_append, wide, start],
        by rw [Columns.width_append, wide, stop, start]⟩
    have further : Columns.width (front ++ gap ++ token.text.toList) = token.stop := by
      rw [Columns.width_append, stands.stop]
    have regrouped : front ++ (gap ++ token.text.toList ++ rest)
        = front ++ gap ++ token.text.toList ++ rest := by
      simp only [List.append_assoc]
    rw [regrouped] at line
    -- The tokens to the right are replaced first, and the token still stands after its front.
    rw [List.map_cons, List.foldr_cons, ih further line,
      correct_report checker _ stands (Document.line?_setLine line _), Document.setLine_setLine,
      Token.substituteFrom_next _ gap rest tokens wide start, List.countP_cons]
    simp only [List.append_assoc, Nat.add_assoc]

/-! ## All lines -/

variable (workspace : Workspace)

/-- A line with all its flagged tokens replaced at once. -/
def substitutedLine (line : String) : String :=
  Token.substitute (replacement workspace.checker) line (flagged workspace line)

/-- A document with all flagged tokens of all lines replaced at once. -/
def substituted (document : Document) : Document :=
  { document with lines := document.lines.map (substitutedLine workspace) }

/-- The number of flagged tokens of a document that are replaced by something else. -/
def replacedCount (document : Document) : Nat :=
  (document.lines.flatMap (flagged workspace)).countP (replaces workspace.checker)

/-- The corrections of the lines of a document from some line on replace all flagged tokens of
these lines at once. -/
theorem foldr_correct_lines (uri : String) (above lines : List String) (count : Nat) :
    (reportsFrom workspace above.length lines).foldr
        (fun placed state => correct workspace.checker state placed) (⟨uri, above ++ lines⟩, count)
      = (⟨uri, above ++ lines.map (substitutedLine workspace)⟩,
        count + (lines.flatMap (flagged workspace)).countP (replaces workspace.checker)) := by
  induction lines generalizing above with
  | nil => rfl
  | cons line rest ih =>
    have regrouped : above ++ line :: rest = above ++ [line] ++ rest := by
      rw [List.append_assoc, List.singleton_append]
    have below := ih (above ++ [line])
    rw [List.length_append, List.length_singleton, ← regrouped] at below
    have here : Document.line? ⟨uri, above ++ [line] ++ rest.map (substitutedLine workspace)⟩
        above.length = some (String.ofList ([] ++ line.toList)) := by
      rw [List.nil_append, String.ofList_toList]
      simp [Document.line?]
    have whole := foldr_correct_line workspace.checker (Spelling.laid_flagged workspace line) rfl
      here (count + (rest.flatMap (flagged workspace)).countP (replaces workspace.checker))
    rw [reportsFrom, List.foldr_append, below, whole, List.flatMap_cons, List.countP_append]
    simp only [Prod.mk.injEq]
    refine ⟨?_, by omega⟩
    simp [Document.setLine, substitutedLine, Token.substitute]

/-- **All corrections of a document replace all flagged tokens at once.** -/
theorem foldl_correct (document : Document) :
    (reportsFrom workspace 0 document.lines).reverse.foldl (correct workspace.checker) (document, 0)
      = (substituted workspace document, replacedCount workspace document) := by
  rw [List.foldl_reverse]
  have whole := foldr_correct_lines workspace document.uri [] document.lines 0
  rw [List.length_nil, List.nil_append, List.nil_append, Nat.zero_add] at whole
  exact whole

/-- With no token replaced by something else, the document stays as it is. -/
theorem substituted_eq_self {document : Document} (none : replacedCount workspace document = 0) :
    substituted workspace document = document := by
  have same : ∀ line ∈ document.lines, substitutedLine workspace line = line := by
    intro line member
    refine Token.substitute_self _ (Spelling.laid_flagged workspace line) fun token flag => ?_
    have kept := List.countP_eq_zero.mp none token (List.mem_flatMap.mpr ⟨line, member, flag⟩)
    exact Decidable.not_not.mp fun other => kept (decide_eq_true other)
  have lines : document.lines.map (substitutedLine workspace) = document.lines :=
    (List.map_congr_left same).trans (List.map_id _)
  rw [substituted, lines]

/-- At most the flagged tokens are replaced. -/
theorem replacedCount_le (document : Document) :
    replacedCount workspace document ≤ (reportsFrom workspace 0 document.lines).length := by
  rw [Spelling.length_reportsFrom]
  exact List.countP_le_length

/-! ## One file -/

/-- The result of fixing a document: each flagged token is either replaced by something else, which
counts as fixed, or left as an error. -/
def outcome (document : Document) : CheckResult :=
  { errorCount := (reportsFrom workspace 0 document.lines).length - replacedCount workspace document
    fixedCount := replacedCount workspace document
    findings := [] }

/-- The bytes that a document goes back to its file as. -/
def bytesAfter (before : String) (document : Document) : ByteArray :=
  ((substituted workspace document).toText before).toUTF8

/-- What it means that fixing the file at a path, which holds a text with some document, replaces the
flagged tokens of the document all at once and does nothing else. -/
structure FixedAtOnce (session : Session) (disk : Disk) (path before : String)
    (document : Document) : Prop where
  /-- The diagnostics are the warnings about the flagged tokens. -/
  reported :
    (session.diagnostics document).1 = reportsFrom session.workspace 0 document.lines
  /-- Errors and replacements together are the diagnostics. -/
  counted :
    (outcome session.workspace document).errorCount
        + (outcome session.workspace document).fixedCount
      = (session.diagnostics document).1.length
  /-- With nothing replaced by something else, all lines and the whole disk stay as they are. -/
  kept : replacedCount session.workspace document = 0 →
    substituted session.workspace document = document ∧
      fix session disk path
        = (.ok (outcome session.workspace document), (session.diagnostics document).2, disk)
  /-- With something replaced, the file is written once, and then holds the new text. -/
  written : 0 < replacedCount session.workspace document → ∀ after,
    disk.write path (bytesAfter session.workspace before document) = (true, after) →
      fix session disk path
        = (.ok (outcome session.workspace document), (session.diagnostics document).2, after) ∧
      after.readText? path = some ((substituted session.workspace document).toText before)
  /-- A write that fails is a failure, and the file stays as it is. -/
  refused : 0 < replacedCount session.workspace document → ∀ after,
    disk.write path (bytesAfter session.workspace before document) = (false, after) →
      fix session disk path
        = (.error (.unwritableDocument path), (session.diagnostics document).2, after) ∧
      after.readText? path = some before

variable {workspace}

/-- A text that was read is the text of the file. -/
theorem readText?_of_readDocument {disk : Disk} {path before : String}
    (opened : readDocument disk path = .ok (before, document)) :
    disk.readText? path = some before := by
  unfold readDocument at opened
  split at opened
  · next text read =>
    cases opened
    exact read
  · cases opened

/-- Fixing a file comes down to replacing all flagged tokens at once, and to one write if something
is replaced by something else. -/
theorem fix_eq {session : Session} {disk : Disk} {path before : String}
    (opened : readDocument disk path = .ok (before, document))
    (reported : (session.diagnostics document).1
      = reportsFrom session.workspace 0 document.lines) :
    fix session disk path
      = if replacedCount session.workspace document = 0 then
          (.ok (outcome session.workspace document), (session.diagnostics document).2, disk)
        else
          ((writeDocument disk path before (substituted session.workspace document)).1.map
              fun _ => outcome session.workspace document,
            (session.diagnostics document).2,
            (writeDocument disk path before (substituted session.workspace document)).2) := by
  have run := foldl_correct session.workspace document
  have checker : session.checker = session.workspace.checker := rfl
  simp only [fix, opened, reported, checker, run, outcome]

/-- **Fixing is simultaneous substitution.**  In a session with the spelling analyzers and no others,
fixing a text file replaces all flagged tokens at once, each by its nearest correction, whatever the
lengths of the corrections and however many tokens stand on one line.

A line number has 32 bits in an editor, so the file has at most `2 ^ 32` lines: a later line would be
taken for an earlier one.  Columns are counted without a bound here.  That they can be counted in 32
bits, in the file and in all that it becomes on the way, is `Guarded.fixFile_eq`; it asks for lines of
fewer than `2 ^ 32` units. -/
theorem fix_substitutes {session : Session} (only : session.OnlySpelling) {disk : Disk}
    {path before : String} (opened : readDocument disk path = .ok (before, document))
    (numbered : document.lines.length ≤ Nat.pow 2 32) :
    FixedAtOnce session disk path before document := by
  have reported := only.diagnostics_eq numbered
  have outcomes := fix_eq opened reported
  refine ⟨reported, ?counted, ?kept, ?written, ?refused⟩
  case counted =>
    rw [reported]
    exact Nat.sub_add_cancel (replacedCount_le session.workspace document)
  case kept =>
    intro none
    rw [if_pos none] at outcomes
    exact ⟨substituted_eq_self session.workspace none, outcomes⟩
  case written =>
    intro some after success
    rw [if_neg (Nat.ne_of_gt some), writeDocument] at outcomes
    rw [bytesAfter] at success
    rw [success] at outcomes
    have there := Disk.at?_of_written_of_samePlace success (Disk.samePlace_self_of_written success)
    have text := Bytes.text?_toUTF8 ((substituted session.workspace document).toText before)
    exact ⟨outcomes, by rw [Disk.readText?, Disk.read?_eq_of_at? there, Option.bind_some, text]⟩
  case refused =>
    intro some after failure
    rw [if_neg (Nat.ne_of_gt some), writeDocument] at outcomes
    rw [bytesAfter] at failure
    rw [failure] at outcomes
    rw [Disk.eq_spend_of_refused failure] at outcomes ⊢
    refine ⟨outcomes, ?_⟩
    rw [Disk.readText?, Disk.read?_spend]
    exact readText?_of_readDocument opened

/-- A session that knows two words and corrects words that differ from them in half the letters. -/
def greetingSession : Session :=
  { workspace :=
      { configuration := Configuration.default
        settings := { maxDistance := Binary64.ofRatio 1 2 }
        lexicon :=
          { Lexicon.inMemory with
            index := Lexicon.addEntries KeyMap.empty
              [Entry.ofWord "hello" .verified ⟨0⟩, Entry.ofWord "world" .verified ⟨1⟩] } }
    registry := Session.initialRegistry Configuration.default }

/-- A text with two misspelled words on one line, after a character that takes two columns. -/
def greeting : String := "😀 Helo, wrold!\n"

/-- A disk with this text. -/
def greetingDisk : Disk :=
  { nodes := [(["draft"], .file greeting.toUTF8)] }

/-- Both words of the greeting are replaced, the first one by a longer word. -/
theorem fix_substitutes_greeting :
    readDocument greetingDisk "draft" = .ok (greeting, Document.ofText "draft" greeting) ∧
      replacedCount greetingSession.workspace (Document.ofText "draft" greeting) = 2 ∧
      (substituted greetingSession.workspace (Document.ofText "draft" greeting)).lines
        = ["😀 Hello, world!"] ∧
      FixedAtOnce greetingSession greetingDisk "draft" greeting
        (Document.ofText "draft" greeting) := by
  have here : greetingDisk.locate "draft" = some ["draft"] := by decide +kernel
  have read : greetingDisk.readText? "draft" = some greeting := by
    rw [Disk.readText?, Disk.read?, here]
    exact Bytes.text?_toUTF8 greeting
  have opened : readDocument greetingDisk "draft"
      = .ok (greeting, Document.ofText "draft" greeting) := by
    rw [readDocument, read]
  have only : greetingSession.OnlySpelling := Session.slot_initialRegistry Configuration.default
  have numbered : (Document.ofText "draft" greeting).lines.length ≤ Nat.pow 2 32 := by decide +kernel
  exact ⟨opened, by decide +kernel, by decide +kernel, fix_substitutes only opened numbered⟩

end Files

end Orthography
