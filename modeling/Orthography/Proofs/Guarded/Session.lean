import Orthography.Proofs.Guarded.Files
import Orthography.Proofs.Guarded.Lexicon
import Orthography.Proofs.Text.Bytes

/-!
# A session never stops

Each request to a session has a guarded form, which gives nothing where the program would stop: where
a line, a file or a cell of a table is looked up that is not there, where a text is cut inside a
character or between offsets that are reversed, and where a number gets too great or too small.  In a
session with the spelling analyzers the guarded form of every request gives what the request itself
does (`Session.OnlySpelling.never_stops`).  So the program never stops, and what has been proved about
the requests is what the program does.

Nothing is asked of the places in a request.  Of a document it is asked that the units of each of its
lines can be counted in 32 bits.  A file that is fixed has to have numbers for its lines as well.
With more lines than that the number of one line stands for another one too, and a longest line that
is corrected once more than it should be can grow past what can be counted.
-/

namespace Orthography.Session

set_option autoImplicit false

/-- What it means that a session stops at no request: the guarded form of each gives what it does. -/
structure NeverStops (session : Session) : Prop where
  /-- Quick fixes are found for any range: reversed, past the end, or inside a character. -/
  codeActions : ∀ (uri : Uri) (document : Document) (range : Range), document.Narrow →
    Guarded.codeActions session uri document range
      = some (Editor.codeActions session uri document range)
  /-- Completions are found for any cursor. -/
  completions : ∀ (uri : Uri) (document : Document) (cursor : Position), document.Narrow →
    Guarded.completionItems session uri document cursor
      = some (Editor.completions session uri document cursor)
  /-- Diagnostics are found. -/
  diagnostics : ∀ (uri : Uri) (document : Document), document.Narrow →
    Guarded.shownDiagnostics session uri document
      = some (Editor.diagnostics session uri document)
  /-- Files are checked. -/
  check : ∀ (disk : Disk) (path : String),
    (∀ before document, Files.readDocument disk path = .ok (before, document) →
      document.Narrow) →
    Guarded.checkFile session disk path = some (Files.check session disk path)
  /-- Files are fixed, whatever their lines become on the way.  Besides files with a line that cannot be
  counted, only those are left out that have more than `2 ^ 32` lines, one of them of exactly
  `2 ^ 32 - 1` units (`Document.Apart`). -/
  fix : ∀ (disk : Disk) (path : String),
    (∀ before document, Files.readDocument disk path = .ok (before, document) →
      document.Narrow ∧ document.Apart) →
    Guarded.fixFile session disk path = some (Files.fix session disk path)
  /-- The primary file of the lexicon is there. -/
  primaryPath : Guarded.primaryPath session.lexicon = some session.lexicon.primaryPath
  /-- Words are added to the lexicon. -/
  define : ∀ (world : World) (word : String) (level : Level),
    Guarded.define session.lexicon world word level
      = some (session.lexicon.define world word level)
  /-- Words are removed from the lexicon. -/
  remove : ∀ (world : World) (word : String),
    Guarded.remove session.lexicon world word = some (session.lexicon.remove world word)

/-- **No request stops a session** with the spelling analyzers and no others, whatever has become of
its lexicon. -/
theorem OnlySpelling.never_stops {session : Session} (only : session.OnlySpelling)
    (reachable : session.lexicon.Reachable) : NeverStops session where
  codeActions uri _ range narrow := Guarded.codeActions_eq only uri narrow range
  completions uri _ cursor narrow := Guarded.completionItems_eq only uri narrow cursor
  diagnostics uri _ narrow := Guarded.shownDiagnostics_eq only uri narrow
  check disk path narrow := Guarded.checkFile_eq only disk path narrow
  fix disk path narrow := Guarded.fixFile_eq only disk path narrow
  primaryPath := Guarded.primaryPath_eq reachable.wellFormed
  define := Guarded.define_eq reachable.wellFormed
  remove := Guarded.remove_eq session.lexicon

/-- A session that knows one word, with a letter of two columns in it, and corrects words that differ
from it in half the letters. -/
def olwenSession : Session :=
  { workspace :=
      { configuration := Configuration.default
        settings := { maxDistance := Binary64.ofRatio 1 2 }
        lexicon := Lexicon.inMemory.afterCalls [(⟨{}, ⟨0⟩⟩, .define "ol𐐶en" .verified)] }
    registry := initialRegistry Configuration.default }

/-- A text with a word to correct after a character of two columns, and with the start of the word on
its second line. -/
def olwenText : String := "😀 Ol𐐶n!\nol𐐶"

/-- A disk with this text. -/
def olwenDisk : Disk :=
  { nodes := [(["olwen.codex"], .file olwenText.toUTF8)] }

/-- A range that is reversed and past the end has no quick fixes; a cursor inside the letter of two
columns completes the word after it; both words of the text are flagged, reported and corrected; and
the word that is known is removed. -/
theorem never_stops_olwenSession :
    let uri : Uri := ⟨"olwen.codex", by decide +kernel⟩
    let draft := Document.ofText "olwen.codex" olwenText
    let item : Editor.CompletionItem :=
      { label := "ol𐐶en", detail := "spell-check", edit := some ⟨Range.caret ⟨1, 3⟩, "en"⟩ }
    olwenSession.OnlySpelling ∧ olwenSession.lexicon.Reachable ∧ draft.Narrow ∧ draft.Apart ∧
      Files.readDocument olwenDisk "olwen.codex" = .ok (olwenText, draft) ∧
      Guarded.codeActions olwenSession uri draft ⟨⟨7, 9⟩, ⟨0, 2⟩⟩ = some [] ∧
      Guarded.completionItems olwenSession uri draft ⟨1, 3⟩ = some [item] ∧
      (Guarded.shownDiagnostics olwenSession uri draft).map
          (fun shown => shown.1.map Editor.Diagnostic.range)
        = some [Range.onLine 0 3 8, Range.onLine 1 0 4] ∧
      (Guarded.checkFile olwenSession olwenDisk "olwen.codex").map
          (fun outcome => outcome.1.toOption.map CheckResult.errorCount) = some (some 2) ∧
      (Guarded.fixFile olwenSession olwenDisk "olwen.codex").map
          (fun outcome => outcome.1.toOption.map CheckResult.fixedCount) = some (some 2) ∧
      (Guarded.remove olwenSession.lexicon ⟨olwenDisk, ⟨1⟩⟩ "Ol𐐶en").map
          (fun change => change.result.toOption) = some (some 1) := by
  intro uri draft item
  have only : olwenSession.OnlySpelling := slot_initialRegistry Configuration.default
  have reachable : olwenSession.lexicon.Reachable := by
    simp only [lexicon, olwenSession]
    exact Lexicon.Reachable.inMemory.afterCalls _
  have narrow : draft.Narrow := by
    unfold Document.Narrow
    decide +kernel
  have apart : draft.Apart := .inl (by decide +kernel)
  have opened : Files.readDocument olwenDisk "olwen.codex" = .ok (olwenText, draft) := by
    have here : olwenDisk.locate "olwen.codex" = some ["olwen.codex"] := by decide +kernel
    have read : olwenDisk.readText? "olwen.codex" = some olwenText := by
      rw [Disk.readText?, Disk.read?, here]
      exact Bytes.text?_toUTF8 olwenText
    rw [Files.readDocument, read]
  have file (before : String) (document : Document)
      (other : Files.readDocument olwenDisk "olwen.codex" = .ok (before, document)) :
      document = draft := by
    rw [opened] at other
    cases other
    rfl
  have steady := only.never_stops reachable
  refine ⟨only, reachable, narrow, apart, opened, ?_, ?_, ?_, ?_, ?_, ?_⟩
  · rw [steady.codeActions uri draft _ narrow]
    exact congrArg some (List.isEmpty_iff.mp (by decide +kernel))
  · rw [steady.completions uri draft _ narrow]
    decide +kernel
  · rw [steady.diagnostics uri draft narrow]
    decide +kernel
  · rw [steady.check olwenDisk "olwen.codex" fun before document other =>
      file before document other ▸ narrow, Files.check, opened]
    decide +kernel
  · rw [steady.fix olwenDisk "olwen.codex" fun before document other =>
      file before document other ▸ ⟨narrow, apart⟩, Files.fix, opened]
    decide +kernel
  · rw [steady.remove]
    decide +kernel

end Orthography.Session
