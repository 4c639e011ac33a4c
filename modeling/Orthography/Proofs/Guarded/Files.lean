import Orthography.Files.Fix
import Orthography.Proofs.Addition
import Orthography.Proofs.Diagnostics
import Orthography.Proofs.Guarded.Request

/-!
# Files on guard

A finding is about the text between the two columns of its diagnostic, and so is a correction.  Both
look for the columns in a line, which takes counting up to them in 32 bits (`Guarded.Reaches`).  In a
file that is only checked the lines are those that the diagnostics come from, and their units can be
counted (`Guarded.checkFile_eq`).

In a file that is fixed the lines grow.  Even so a column can be found in any line as long as it is
not the greatest of 32 bits (`Guarded.findable_of_lt`).  A diagnostic that ends at the greatest column
is the last one of a line that is as long as a line can be.  The corrections go from right to left and
change no line but that of their diagnostic (`Files.line?_correct`), so this line is still that of the
file when the diagnostic comes up (`Guarded.reaches_of_suffix`).  This takes lines whose numbers of 32
bits differ (`Document.Apart`), so that no correction of another line is made in it
(`Guarded.fixFile_eq`).
-/

namespace Orthography

set_option autoImplicit false

open Columns (width)

/-- The lines of a document can be told apart by their numbers of 32 bits, or else none of them is as
long as a line can be.  Of the documents whose lines can be counted at all (`Document.Narrow`) this
leaves out those of more than `2 ^ 32` lines, one of which has exactly `2 ^ 32 - 1` units. -/
def Document.Apart (document : Document) : Prop :=
  document.lines.length ≤ Nat.pow 2 32 ∨
    ∀ line ∈ document.lines, width line.toList + 1 < Nat.pow 2 32

namespace Files

variable (checker : Checker) (state : Document × Nat) (placed : Placed)

/-- A correction changes no line but that of its diagnostic. -/
theorem line?_correct {index : Nat} (other : index ≠ placed.range.start.line) :
    (correct checker state placed).1.line? index = state.1.line? index := by
  have edited (suggestion : Suggestion) (document : Document)
      (done : applyEdit state.1 ⟨suggestion, placed.range⟩ = some document) :
      document.line? index = state.1.line? index := by
    simp only [applyEdit] at done
    split at done
    · cases done
    · split at done
      · cases done
      · split at done
        · cases done
        · split at done
          · cases done
          · cases done
            exact List.getElem?_set_ne (Ne.symm other)
  rw [correct]
  cases found : correction? checker state.1 placed with
  | none => rfl
  | some fixed =>
    have place : fixed = ⟨fixed.suggestion, placed.range⟩ := by
      unfold correction? at found
      split at found
      · cases found
      · split at found <;> cases found
        rfl
    cases done : applyEdit state.1 fixed with
    | none =>
      rw [Option.bind_some, done]
    | some document =>
      rw [Option.bind_some, done]
      rw [place] at done
      exact edited fixed.suggestion document done

/-- Corrections change no line but those of their diagnostics. -/
theorem line?_foldr_correct {reports : List Placed} {index : Nat}
    (others : ∀ placed ∈ reports, index ≠ placed.range.start.line) :
    (reports.foldr (fun placed state => correct checker state placed) state).1.line? index
      = state.1.line? index := by
  induction reports with
  | nil => rfl
  | cons placed rest ih =>
    obtain ⟨here, below⟩ := List.forall_mem_cons.mp others
    rw [List.foldr_cons, line?_correct checker _ placed here, ih below]

/-- One correction counts once at most. -/
theorem count_correct_le : (correct checker state placed).2 ≤ state.2 + 1 := by
  rw [correct]
  split
  · exact Nat.le_refl _
  · exact Nat.le_succ _

/-- There are no more corrections than diagnostics. -/
theorem count_foldr_correct_le (document : Document) (reports : List Placed) :
    (reports.foldr (fun placed state => correct checker state placed) (document, 0)).2
      ≤ reports.length := by
  induction reports with
  | nil => exact Nat.le_refl 0
  | cons placed rest ih =>
    have step := count_correct_le checker
      (rest.foldr (fun placed state => correct checker state placed) (document, 0)) placed
    rw [List.foldr_cons, List.length_cons]
    omega

end Files

namespace Guarded

open Traversal (mapM_eq_some filterMapM_eq_some)

variable (checker : Checker)

/-! ## Findings -/

/-- The corrections for a word that are near enough. -/
def nearMatches (word : String) : Option (List String) := do
  let candidates ← check checker word
  candidates.filterMapM fun candidate =>
    if Word.key candidate = Word.key word then some none
    else do
      let distance ← relativeDistance (Word.key candidate) (Word.key word)
      return if distance.le checker.settings.maxDistance then some (Word.matchCase word candidate)
        else none

/-- The part of a line that a suggestion in its place is about. -/
def flaggedText (context : String) (placed : Placed) : Option String :=
  if placed.suggestion.span.isSome then do
    let inner ←
      slice context.toList placed.range.start.character placed.range.stop.character
    return String.ofList inner
  else some ""

/-- A diagnostic as it is reported.  Its line and column are counted in 64 bits. -/
def finding (document : Document) (placed : Placed) : Option Finding := do
  let context := (document.line? placed.range.start.line).getD ""
  let word ← flaggedText context placed
  let line ← sum 64 placed.range.start.line 1
  let column ← sum 64 placed.range.start.character 1
  let suggestions ← (if word.isEmpty then some [] else nearMatches checker word)
  return {
    word := word
    message := placed.suggestion.message
    source := placed.suggestion.source
    severity := placed.suggestion.severity
    line := line
    column := column
    context := Word.trimmed context
    suggestions := suggestions }

/-- A part of a document that is given by numbers of 32 bits, and whose columns can be found in its
line. -/
structure Reaches (document : Document) (range : Range) : Prop where
  line : range.start.line < Nat.pow 2 32
  column : range.start.character < Nat.pow 2 32
  start : ∀ text, document.line? range.start.line = some text →
    Findable text.toList range.start.character
  stop : ∀ text, document.line? range.start.line = some text →
    Findable text.toList range.stop.character

theorem nearMatches_eq (word : String) :
    nearMatches checker word = some (Files.nearMatches checker word) := by
  rw [nearMatches, check_eq, Option.bind_eq_bind, Option.bind_some]
  refine filterMapM_eq_some fun candidate _ => ?_
  dsimp only
  split
  · next same => simp [same]
  · next other =>
    rw [relativeDistance_eq]
    simp [other]

variable {document : Document} {placed : Placed}

theorem flaggedText_eq (reaches : Reaches document placed.range) :
    flaggedText ((document.line? placed.range.start.line).getD "") placed
      = some (Files.flaggedText ((document.line? placed.range.start.line).getD "") placed) := by
  rw [flaggedText, Files.flaggedText]
  split
  · cases here : document.line? placed.range.start.line with
    | none =>
      have empty (column : Nat) : Findable [] column := findable_of_narrow (by decide) column
      rw [Option.getD_none, String.toList_empty, slice_eq (empty _) (empty _)]
      rfl
    | some text =>
      rw [Option.getD_some, slice_eq (reaches.start text here) (reaches.stop text here)]
      rfl
  · rfl

/-- **A diagnostic whose columns can be found is reported.** -/
theorem finding_eq (reaches : Reaches document placed.range) :
    finding checker document placed = some (Files.finding checker document placed) := by
  have line : sum 64 placed.range.start.line 1 = some (placed.range.start.line + 1) :=
    sum_eq (Nat.lt_of_le_of_lt reaches.line (by decide))
  have column : sum 64 placed.range.start.character 1 = some (placed.range.start.character + 1) :=
    sum_eq (Nat.lt_of_le_of_lt reaches.column (by decide))
  rw [finding, flaggedText_eq reaches, line, column]
  simp only [Option.bind_eq_bind, Option.bind_some, nearMatches_eq, Files.finding]
  split <;> rfl

/-! ## Corrections -/

/-- A document with the edit of a suggestion made, unless that changes nothing. -/
def applyEdit (document : Document) (placed : Placed) : Option (Option Document) :=
  match placed.suggestion.edit with
  | none => some none
  | some edit =>
    let range := placed.range
    if range.start.line ≠ range.stop.line then some none
    else
      match document.line? range.start.line with
      | none => some none
      | some line => do
        let inner ← slice line.toList range.start.character range.stop.character
        if inner = edit.toList then return none
        else
          let edited ← splice line.toList range.start.character range.stop.character edit.toList
          return some (document.setLine range.start.line (String.ofList edited))

/-- A diagnostic with its nearest correction as its edit, if there is one. -/
def correction (document : Document) (placed : Placed) : Option (Option Placed) :=
  if placed.suggestion.isWholeLine then some none
  else do
    let found ← finding checker document placed
    match found.suggestions with
    | [] => return none
    | nearest :: _ =>
      return some { placed with suggestion := { placed.suggestion with edit := some nearest } }

/-- A document with one of so many diagnostics corrected where that can be done, and the number of
corrections made so far. -/
def correct (reports : Nat) (state : Document × Nat) (placed : Placed) :
    Option (Document × Nat) := do
  match ← correction checker state.1 placed with
  | none => return state
  | some fixed =>
    match ← applyEdit state.1 fixed with
    | none => return state
    | some document =>
      let corrected ← count reports state.2 1
      return (document, corrected)

theorem applyEdit_eq (reaches : Reaches document placed.range) :
    applyEdit document placed = some (Files.applyEdit document placed) := by
  rw [applyEdit, Files.applyEdit]
  cases placed.suggestion.edit with
  | none => rfl
  | some edit =>
    dsimp only
    split
    · rfl
    · cases here : document.line? placed.range.start.line with
      | none => rfl
      | some line =>
        have start := reaches.start line here
        have stop := reaches.stop line here
        dsimp only
        rw [slice_eq start stop, splice_eq start stop, Option.bind_eq_bind, Option.bind_some]
        split <;> rfl

theorem correction_eq (reaches : Reaches document placed.range) :
    correction checker document placed = some (Files.correction? checker document placed) := by
  rw [correction, Files.correction?, finding_eq checker reaches]
  split
  · rfl
  · rw [Option.bind_eq_bind, Option.bind_some]
    cases (Files.finding checker document placed).suggestions <;> rfl

/-- A correction keeps the place of its diagnostic. -/
theorem range_of_correction? {fixed : Placed}
    (found : Files.correction? checker document placed = some fixed) :
    fixed.range = placed.range := by
  unfold Files.correction? at found
  split at found
  · cases found
  · split at found <;> cases found
    rfl

/-- **A diagnostic whose columns can be found is corrected.** -/
theorem correct_eq {reports fixed : Nat} (reaches : Reaches document placed.range)
    (room : fixed < reports) :
    correct checker reports (document, fixed) placed
      = some (Files.correct checker (document, fixed) placed) := by
  rw [correct, correction_eq checker reaches, Files.correct, Option.bind_eq_bind, Option.bind_some]
  cases found : Files.correction? checker document placed with
  | none => rfl
  | some correction =>
    rw [← range_of_correction? checker found] at reaches
    dsimp only
    rw [applyEdit_eq reaches, Option.bind_eq_bind, Option.bind_some, Option.bind_some]
    cases Files.applyEdit document correction with
    | none => rfl
    | some document =>
      dsimp only
      rw [count_eq room]
      rfl

/-- **Corrections are made from right to left**, if the columns of each diagnostic can be found when
those to its right are corrected. -/
theorem foldrM_correct {reports : Nat} {placed : List Placed} (enough : placed.length ≤ reports)
    (reaches : ∀ first rest, first :: rest <:+ placed →
      Reaches (rest.foldr (fun placed state => Files.correct checker state placed)
        (document, 0)).1 first.range) :
    placed.foldrM (fun placed state => correct checker reports state placed) (document, 0)
      = some (placed.foldr (fun placed state => Files.correct checker state placed)
          (document, 0)) := by
  induction placed with
  | nil => rfl
  | cons first rest ih =>
    rw [List.length_cons] at enough
    have below := ih (by omega) fun other others inside =>
      reaches other others (inside.trans (List.suffix_cons first rest))
    have fewer := Files.count_foldr_correct_le checker document rest
    rw [List.foldrM_cons, below, List.foldr_cons, Option.bind_eq_bind, Option.bind_some]
    exact correct_eq checker (reaches first rest List.suffix_rfl) (Nat.lt_of_le_of_lt fewer enough)

/-! ## One file -/

/-- Checks a file. -/
def checkFile (session : Session) (disk : Disk) (path : String) :
    Option (Except Failure CheckResult × List Announcement) :=
  match Files.readDocument disk path with
  | .error failure => some (.error failure, [])
  | .ok (_, document) => do
    let (placed, announcements) ← diagnostics session document
    let findings ← placed.mapM (finding session.checker document)
    return (.ok { errorCount := findings.length, fixedCount := 0, findings := findings },
      announcements)

/-- Fixes a file. -/
def fixFile (session : Session) (disk : Disk) (path : String) :
    Option (Except Failure CheckResult × List Announcement × Disk) :=
  match Files.readDocument disk path with
  | .error failure => some (.error failure, [], disk)
  | .ok (before, document) => do
    let (placed, announcements) ← diagnostics session document
    let (document, fixed) ←
      placed.reverse.foldlM (correct session.checker placed.length) (document, 0)
    let errors ← difference placed.length fixed
    let result : CheckResult := { errorCount := errors, fixedCount := fixed, findings := [] }
    if fixed = 0 then return (.ok result, announcements, disk)
    else
      let (written, disk) := Files.writeDocument disk path before document
      return (written.map fun _ => result, announcements, disk)

section File

variable {session : Session} (only : session.OnlySpelling)

include only

/-- A diagnostic of a document stands between two columns of a line. -/
theorem exists_line_of_mem (member : placed ∈ (session.diagnostics document).1) :
    ∃ line ∈ document.lines, placed.range.start.line < Nat.pow 2 32 ∧
      placed.range.stop.line = placed.range.start.line ∧
      placed.range.start.character < placed.range.stop.character ∧
      placed.range.stop.character ≤ width line.toList := by
  rw [only.diagnostics_eq_diagnose] at member
  obtain ⟨suggestion, said, rfl⟩ := List.mem_map.mp member
  obtain ⟨number, line, inside, token, flag, rfl⟩ := Spelling.exists_of_mem_diagnoseFrom said
  obtain ⟨filled, within⟩ := Spelling.columns_of_mem_flagged session.workspace flag
  refine ⟨line, inside, Nat.mod_lt _ (by decide), rfl, ?filled, ?within⟩
  case filled =>
    show min token.start token.stop < max token.start token.stop
    omega
  case within =>
    show max token.start token.stop ≤ width line.toList
    omega

variable (narrow : document.Narrow)

include narrow

/-- The columns of a diagnostic can be found in the document that it comes from. -/
theorem reaches_of_mem (member : placed ∈ (session.diagnostics document).1) :
    Reaches document placed.range := by
  obtain ⟨line, inside, number, -, filled, within⟩ := exists_line_of_mem only member
  have bound := narrow line inside
  have findable (column : Nat) (text : String)
      (here : document.line? placed.range.start.line = some text) : Findable text.toList column :=
    findable_of_narrow (narrow text (List.mem_of_getElem? here)) column
  exact ⟨number, by omega, findable _, findable _⟩

variable (apart : document.Apart)

include apart

/-- The columns of a diagnostic can be found in the document after all diagnostics to its right were
corrected. -/
theorem reaches_of_suffix {rest : List Placed}
    (suffix : placed :: rest <:+ (session.diagnostics document).1) :
    Reaches (rest.foldr (fun placed state => Files.correct checker state placed)
      (document, 0)).1 placed.range := by
  obtain ⟨line, inside, number, oneLine, filled, within⟩ :=
    exists_line_of_mem only (suffix.subset List.mem_cons_self)
  have bound := narrow line inside
  have start (text : String) : Findable text.toList placed.range.start.character :=
    findable_of_lt (by omega) text.toList
  refine ⟨number, by omega, fun text _ => start text, fun text here => ?stop⟩
  case stop =>
    by_cases small : placed.range.stop.character + 1 < Nat.pow 2 32
    · exact findable_of_lt small text.toList
    · -- The diagnostic ends at the greatest column: there is none to its right on its line.
      have numbered : document.lines.length ≤ Nat.pow 2 32 :=
        apart.resolve_right fun shorter => small (by have := shorter line inside; omega)
      have ordered : (session.diagnostics document).1.Pairwise Spelling.Precedes := by
        rw [only.diagnostics_eq numbered]
        exact Spelling.pairwise_reportsFrom session.workspace 0 document.lines
      have others : ∀ other ∈ rest, placed.range.start.line ≠ other.range.start.line := by
        intro other later same
        obtain ⟨second, there, -, -, more, inner⟩ :=
          exists_line_of_mem only (suffix.subset (List.mem_cons_of_mem placed later))
        have bounded := narrow second there
        rcases (List.pairwise_cons.mp (ordered.sublist suffix.sublist)).1 other later with
          below | ⟨-, right⟩
        · omega
        · omega
      rw [Files.line?_foldr_correct checker (document, 0) others] at here
      exact findable_of_narrow (narrow text (List.mem_of_getElem? here)) _

/-- All diagnostics of a document are corrected, from right to left. -/
theorem foldlM_correct :
    (session.diagnostics document).1.reverse.foldlM
        (correct checker (session.diagnostics document).1.length) (document, 0)
      = some ((session.diagnostics document).1.reverse.foldl (Files.correct checker)
          (document, 0)) := by
  rw [List.foldlM_reverse, List.foldl_reverse]
  exact foldrM_correct checker (Nat.le_refl _) fun first rest suffix =>
    reaches_of_suffix checker only narrow apart suffix

end File

section Session

variable {session : Session} (only : session.OnlySpelling) (disk : Disk) (path : String)

include only

/-- **Files are checked** if the units of each of their lines can be counted. -/
theorem checkFile_eq
    (narrow : ∀ before document, Files.readDocument disk path = .ok (before, document) →
      document.Narrow) :
    checkFile session disk path = some (Files.check session disk path) := by
  rw [checkFile, Files.check]
  cases opened : Files.readDocument disk path with
  | error failure => rfl
  | ok text =>
    obtain ⟨before, document⟩ := text
    have counted := narrow before document opened
    have findings : (session.diagnostics document).1.mapM (finding session.checker document)
        = some _ :=
      mapM_eq_some fun placed member =>
        finding_eq session.checker (reaches_of_mem only counted member)
    dsimp only
    rw [diagnostics_eq only counted, Option.bind_eq_bind, Option.bind_some, findings]
    rfl

/-- **Files are fixed** if the units of each of their lines can be counted, and the numbers of any two
lines differ. -/
theorem fixFile_eq
    (narrow : ∀ before document, Files.readDocument disk path = .ok (before, document) →
      document.Narrow ∧ document.Apart) :
    fixFile session disk path = some (Files.fix session disk path) := by
  rw [fixFile, Files.fix]
  cases opened : Files.readDocument disk path with
  | error failure => rfl
  | ok text =>
    obtain ⟨before, document⟩ := text
    obtain ⟨counted, apart⟩ := narrow before document opened
    have corrected := foldlM_correct session.checker only counted apart
    have fewer := Files.count_foldr_correct_le session.checker document
      (session.diagnostics document).1
    rw [← List.foldl_reverse] at fewer
    dsimp only
    rw [diagnostics_eq only counted, Option.bind_eq_bind, Option.bind_some, corrected,
      Option.bind_eq_bind, Option.bind_some, difference_eq fewer, Option.bind_eq_bind,
      Option.bind_some]
    split <;> rfl

end Session

end Guarded

end Orthography
