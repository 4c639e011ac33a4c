import Orthography.Editor.Service
import Orthography.Proofs.Checker
import Orthography.Proofs.Session
import Orthography.Proofs.Text.Columns
import Orthography.Proofs.Word.Edges
import Mathlib.Data.List.Infix

/-!
# What a completion inserts

A completion goes from the text before the cursor to an ending of a head word in three steps.  The
last word of the text is the part after its last white space (`Word.lastChars`); without punctuation
at its start it is the *stem*, which still stands at the end of the text, since a word that ends in
punctuation is not completed (`Word.surfaceChars_suffix`).  The stem is looked for in the head words
of the verified entries, and what follows its first occurrence is the ending
(`Checker.exists_front_of_afterFirst`).  So inserting the ending at the cursor leaves the text before
the cursor with a part of the head word at its end (`Session.OnlySpelling.completions_complete`).

How many completions there are is known as well: one for each verified entry with the stem in its head
word, up to the greatest number that is wanted (`Session.OnlySpelling.length_completions`).
-/

namespace Orthography

set_option autoImplicit false

/-! ## The stem -/

namespace Word

/-- The last word of a line is what is taken from its end up to white space. -/
theorem lastChars_eq_rtakeWhile (line : List Char) :
    lastChars line = line.rtakeWhile fun c => !Unicode.isWhiteSpace c :=
  rfl

/-- The last word of a line stands at its end. -/
theorem lastChars_suffix (line : List Char) : lastChars line <:+ line :=
  List.rtakeWhile_suffix _ line

/-- The last word of a line has no white space in it. -/
theorem isWhiteSpace_of_mem_lastChars {line : List Char} {c : Char}
    (member : c ∈ lastChars line) : Unicode.isWhiteSpace c = false := by
  rw [lastChars_eq_rtakeWhile] at member
  simpa using List.mem_rtakeWhile_imp member

/-- A line that ends in white space has no last word. -/
theorem lastChars_concat_of_blank (front : List Char) {c : Char}
    (blank : Unicode.isWhiteSpace c = true) : lastChars (front ++ [c]) = [] := by
  rw [lastChars_eq_rtakeWhile]
  exact List.rtakeWhile_concat_neg _ _ _ (by simp [blank])

/-- Any other character at the end of a line belongs to its last word. -/
theorem lastChars_concat_of_ink (front : List Char) {c : Char}
    (ink : Unicode.isWhiteSpace c = false) :
    lastChars (front ++ [c]) = lastChars front ++ [c] := by
  rw [lastChars_eq_rtakeWhile, lastChars_eq_rtakeWhile]
  exact List.rtakeWhile_concat_pos _ _ _ (by simp [ink])

/-- A word that ends inside is left alone at its end. -/
theorem surfaceChars_concat (word : List Char) {c : Char} (inner : isEdge c = false) :
    surfaceChars (word ++ [c]) = word.dropWhile isEdge ++ [c] := by
  have kept : ¬ isEdge c = true := Bool.eq_false_iff.mp inner
  have front : (word ++ [c]).dropWhile isEdge = word.dropWhile isEdge ++ [c] := by
    rw [List.dropWhile_append, List.dropWhile_cons_of_neg kept]
    split
    · next none => rw [List.isEmpty_iff.mp none, List.nil_append]
    · rfl
  rw [surfaceChars, trimBy_eq_rdropWhile, front]
  exact List.rdropWhile_concat_neg _ _ _ kept

/-- The stem of a line that ends inside a word stands at the end of its last word. -/
theorem stem_suffix (front : List Char) {c : Char} (inner : isEdge c = false) :
    surfaceChars (lastChars (front ++ [c])) <:+ lastChars (front ++ [c]) := by
  have ink := (Bool.or_eq_false_iff.mp inner).1
  rw [lastChars_concat_of_ink front ink, surfaceChars_concat _ inner]
  exact List.suffix_append_self_iff.mpr (List.dropWhile_suffix isEdge)

/-- A line that ends inside a word has a stem. -/
theorem stem_ne_nil (front : List Char) {c : Char} (inner : isEdge c = false) :
    surfaceChars (lastChars (front ++ [c])) ≠ [] := by
  have ink := (Bool.or_eq_false_iff.mp inner).1
  rw [lastChars_concat_of_ink front ink, surfaceChars_concat _ inner]
  exact List.concat_ne_nil c _

/-- The stem of a text is the surface form of its last word. -/
theorem surface_last (text : List Char) :
    surface (last (String.ofList text)) = String.ofList (surfaceChars (lastChars text)) := by
  rw [surface, last, String.toList_ofList, String.toList_ofList]

end Word

/-! ## Endings -/

namespace Checker

variable {part text rest : List Char}

/-- What follows the first occurrence of a text in another one: the occurrence stands right before
it, and there is none further to the left. -/
theorem exists_front_of_afterFirst (found : afterFirst part text = some rest) :
    ∃ front, text = front ++ part ++ rest ∧
      ∀ earlier, part <+: text.drop earlier → front.length ≤ earlier := by
  induction text with
  | nil =>
    rw [afterFirst, Option.ite_none_right_eq_some, List.isEmpty_iff] at found
    obtain ⟨rfl, found⟩ := found
    cases found
    exact ⟨[], rfl, fun earlier _ => Nat.zero_le earlier⟩
  | cons c text ih =>
    rw [afterFirst] at found
    split at found
    · next here =>
      cases found
      have whole := List.prefix_iff_eq_append.mp (List.isPrefixOf_iff_prefix.mp here)
      exact ⟨[], whole.symm, fun earlier _ => Nat.zero_le earlier⟩
    · next away =>
      obtain ⟨front, whole, first⟩ := ih found
      refine ⟨c :: front, by rw [whole, List.cons_append, List.cons_append], ?_⟩
      intro earlier occurs
      cases earlier with
      | zero => exact absurd (List.isPrefixOf_iff_prefix.mpr occurs) away
      | succ before => exact Nat.succ_le_succ (first before occurs)

/-- Something follows the first occurrence if there is one at all. -/
theorem isSome_afterFirst_iff : (afterFirst part text).isSome = true ↔ part <:+: text := by
  induction text with
  | nil =>
    rw [afterFirst, List.infix_nil, ← List.isEmpty_iff]
    split <;> simp_all
  | cons c text ih =>
    rw [afterFirst, List.infix_cons_iff, ← ih, ← List.isPrefixOf_iff_prefix]
    split <;> simp_all

variable {checker : Checker} {word ending : String}

/-- A completion is what follows the surface form of the word in the head word of a verified
entry. -/
theorem exists_of_mem_complete (member : ending ∈ checker.complete word) :
    ∃ entry ∈ checker.lexicon.entries, entry.level = .verified ∧
      afterFirst (Word.surface word).toList entry.headWord.toList = some ending.toList := by
  simp only [complete] at member
  split at member
  · cases member
  · obtain ⟨score, scored⟩ := mem_ranked.mp (List.mem_of_mem_take member)
    obtain ⟨entry, listed, found⟩ := List.mem_filterMap.mp scored
    obtain ⟨rest, after, pair⟩ := Option.map_eq_some_iff.mp found
    obtain ⟨inside, level⟩ := List.mem_filter.mp listed
    cases pair
    refine ⟨entry, inside, by simpa using level, ?_⟩
    rw [after, String.toList_ofList]

/-- There is one completion for each verified entry with the surface form of the word in its head
word, up to the greatest number of completions. -/
theorem length_complete (filled : Word.surface word ≠ "") :
    (checker.complete word).length = min checker.settings.maxCompletions
      (checker.lexicon.entries.countP fun entry =>
        entry.level = .verified ∧ (Word.surface word).toList <:+: entry.headWord.toList) := by
  simp only [complete]
  rw [if_neg (by simpa using filled), List.length_take, ranked, List.length_map,
    List.length_mergeSort, endings, List.length_filterMap_eq_countP, Lexicon.entriesAt,
    List.countP_filter]
  congr 1
  refine List.countP_congr fun entry _ => ?_
  rw [Option.isSome_map, Bool.and_eq_true, isSome_afterFirst_iff, decide_eq_true_iff, and_comm]
  simp

end Checker

namespace Spelling

/-- A text before a cursor is completed by an ending: the stem at its end goes on with the ending in
the head word of a verified entry. -/
structure Completes (lexicon : Lexicon) (before stem ending : List Char) : Prop where
  /-- There is a stem. -/
  filled : stem ≠ []
  /-- It has no white space in it. -/
  solid : ∀ c ∈ stem, Unicode.isWhiteSpace c = false
  /-- It is what was typed last. -/
  typed : stem <:+ before
  /-- A verified head word ends in the stem and the ending, and the stem does not occur further to the
  left in it. -/
  known : ∃ entry ∈ lexicon.entries, entry.level = .verified ∧ ∃ front,
    entry.headWord.toList = front ++ stem ++ ending ∧
      ∀ earlier, stem <+: entry.headWord.toList.drop earlier → front.length ≤ earlier

variable {workspace : Workspace} {front : List Char} {c : Char}

/-- A text that ends in white space or punctuation is not completed, and neither is the empty one. -/
theorem completeWord_eq_nil {text : List Char}
    (closed : ∀ c ∈ text.getLast?, Word.isEdge c = true) :
    completeWord workspace (String.ofList text) = [] := by
  -- Without a last word there is no stem.
  have silent (none : Word.lastChars text = []) :
      completeWord workspace (String.ofList text) = [] := by
    have word : Word.last (String.ofList text) = "" := by
      rw [Word.last, String.toList_ofList, none]
    simp only [completeWord, word]
    rfl
  cases last : text.getLast? with
  | none =>
    rw [List.getLast?_eq_none_iff] at last
    subst last
    exact silent rfl
  | some c =>
    obtain ⟨front, rfl⟩ := List.getLast?_eq_some_iff.mp last
    cases blank : Unicode.isWhiteSpace c with
    | true => exact silent (Word.lastChars_concat_of_blank front blank)
    | false =>
      have edge := closed c last
      rw [Word.isEdge, blank, Bool.false_or] at edge
      have ends : (Word.last (String.ofList (front ++ [c]))).toList.getLast? = some c := by
        rw [Word.last, String.toList_ofList, String.toList_ofList,
          Word.lastChars_concat_of_ink front blank, List.getLast?_concat]
      simp only [completeWord, ends, Option.any_some, edge, if_true]

/-- Any other text is completed by the endings for its last word. -/
theorem completeWord_concat (inner : Word.isEdge c = false) :
    completeWord workspace (String.ofList (front ++ [c]))
      = (workspace.checker.complete (Word.last (String.ofList (front ++ [c])))).map fun ending =>
          { message := Word.surface (Word.last (String.ofList (front ++ [c]))) ++ ending
            source := source
            severity := .hint
            edit := some ending } := by
  obtain ⟨ink, letter⟩ := Bool.or_eq_false_iff.mp inner
  have ends : (Word.last (String.ofList (front ++ [c]))).toList.getLast? = some c := by
    rw [Word.last, String.toList_ofList, String.toList_ofList,
      Word.lastChars_concat_of_ink front ink, List.getLast?_concat]
  simp only [completeWord, ends, Option.any_some, letter, Bool.false_eq_true, if_false]

/-- **Every suggestion to complete a text does complete it**: it inserts an ending and shows the stem
with it. -/
theorem exists_of_mem_completeWord {text : List Char} {suggestion : Suggestion}
    (member : suggestion ∈ completeWord workspace (String.ofList text)) :
    ∃ stem ending, Completes workspace.lexicon text stem ending ∧
      suggestion =
        { message := String.ofList (stem ++ ending)
          source := source
          severity := .hint
          edit := some (String.ofList ending) } := by
  by_cases closed : ∀ c ∈ text.getLast?, Word.isEdge c = true
  · rw [completeWord_eq_nil closed] at member
    cases member
  · simp only [not_forall, Bool.not_eq_true] at closed
    obtain ⟨c, last, inner⟩ := closed
    obtain ⟨front, rfl⟩ := List.getLast?_eq_some_iff.mp last
    rw [completeWord_concat inner] at member
    obtain ⟨ending, offered, rfl⟩ := List.mem_map.mp member
    obtain ⟨entry, inside, level, found⟩ := Checker.exists_of_mem_complete offered
    rw [Word.surface_last, String.toList_ofList] at found
    obtain ⟨before, split, first⟩ := Checker.exists_front_of_afterFirst found
    have stem := Word.stem_suffix front inner
    refine ⟨Word.surfaceChars (Word.lastChars (front ++ [c])), ending.toList, ?completes, ?same⟩
    case completes =>
      exact
        { filled := Word.stem_ne_nil front inner
          solid := fun _ member => Word.isWhiteSpace_of_mem_lastChars (stem.subset member)
          typed := stem.trans (Word.lastChars_suffix _)
          known := ⟨entry, inside, level, before, split, first⟩ }
    case same => rw [Word.surface_last, String.ofList_append, String.ofList_toList]

end Spelling

/-! ## Completions at a cursor -/

namespace Session

open Spelling (Completes completeWord)

variable {session : Session}

/-- The text before a cursor on a line of a document. -/
def textBefore (line : String) (cursor : Position) : List Char :=
  (Columns.cut cursor.character line.toList).1

/-- After an insertion at a cursor, what stands before the end of the insertion is what stood before
the cursor and what is inserted, wherever in the line the cursor is. -/
theorem cut_splice_textBefore (line : String) (cursor : Position) (inserted : List Char) :
    (Columns.cut (Columns.width (textBefore line cursor ++ inserted))
        (Columns.splice line.toList cursor.character cursor.character inserted)).1
      = textBefore line cursor ++ inserted := by
  rw [Columns.splice, Nat.max_self]
  exact congrArg Prod.fst (Columns.cut_width_append _ _)

/-- The completions at a cursor are the suggestions for the text before it, inserted at the cursor;
there are none without a line. -/
theorem OnlySpelling.completions_eq (only : session.OnlySpelling) (document : Document)
    (cursor : Position) :
    session.completions document cursor =
      match document.line? cursor.line with
      | none => []
      | some line =>
        (completeWord session.workspace (String.ofList (textBefore line cursor))).map
          fun suggestion => ⟨suggestion, Range.caret cursor⟩ := by
  obtain ⟨registered, alone, builtIn⟩ := only.exists_registered .completion
  have single (answers : List Suggestion)
      (answer : Registry.Registered.onDocument registered session.workspace
        ⟨document.lines, some cursor⟩ = answers) :
      session.completions document cursor
        = answers.map (Registry.placeCompletion document cursor) := by
    rw [completions, Registry.runCompletions,
      show session.registry.completions = [registered] from alone, Registry.completionsOf, answer,
      Registry.completionsOf, List.append_nil, ite_self]
  cases here : document.line? cursor.line with
  | none =>
    have before : (View.mk document.lines (some cursor)).beforeCursor? = none := by
      rw [Document.line?] at here
      simp [View.beforeCursor?, here]
    refine single [] ?_
    rw [Registry.Registered.onDocument, builtIn, Spelling.builtIn]
    simp only [Spelling.completionAnalyzer, before]
  | some line =>
    have before : (View.mk document.lines (some cursor)).beforeCursor?
        = some (String.ofList (textBefore line cursor)) := by
      rw [Document.line?] at here
      simp [View.beforeCursor?, here, textBefore]
    rw [single (completeWord session.workspace (String.ofList (textBefore line cursor)))]
    · refine List.map_congr_left fun suggestion member => ?_
      obtain ⟨stem, ending, -, rfl⟩ := Spelling.exists_of_mem_completeWord member
      rfl
    · rw [Registry.Registered.onDocument, builtIn, Spelling.builtIn]
      simp only [Spelling.completionAnalyzer, before]

/-- **Accepting a completion completes the word.**  Whatever the cursor, be it past the end of its
line or inside a character, every completion inserts an ending at the cursor and is shown as a stem
with this ending; the stem stands before the cursor, and the two stand at the end of a verified head
word (`Spelling.Completes`).  So after the insertion the text before the new cursor, right after the
ending, ends in what was shown.  Without a line at the cursor there are no completions, and neither
are there any after white space, after punctuation or at the start of the line. -/
theorem OnlySpelling.completions_complete (only : session.OnlySpelling) (uri : Uri)
    (document : Document) (cursor : Position) :
    (∀ item ∈ Editor.completions session uri document cursor,
      ∃ line, document.line? cursor.line = some line ∧
      ∃ stem ending, Completes session.lexicon (textBefore line cursor) stem ending ∧
        item.edit = some ⟨Range.caret cursor, String.ofList ending⟩ ∧
        item.label = String.ofList (stem ++ ending) ∧
        let written :=
          Columns.splice line.toList cursor.character cursor.character ending
        let newColumn := Columns.width (textBefore line cursor ++ ending)
        (Columns.cut newColumn written).1 = textBefore line cursor ++ ending ∧
          item.label.toList <:+ (Columns.cut newColumn written).1) ∧
    (document.line? cursor.line = none → Editor.completions session uri document cursor = []) ∧
    (∀ line, document.line? cursor.line = some line →
      (∀ c ∈ (textBefore line cursor).getLast?, Word.isEdge c = true) →
        Editor.completions session uri document cursor = []) := by
  have offered := only.completions_eq document cursor
  refine ⟨?complete, ?noLine, ?closed⟩
  case complete =>
    intro item member
    unfold Editor.completions at member
    split at member
    · obtain ⟨placed, inside, rfl⟩ := List.mem_map.mp member
      rw [offered] at inside
      cases here : document.line? cursor.line with
      | none =>
        rw [here] at inside
        cases inside
      | some line =>
        rw [here] at inside
        obtain ⟨suggestion, said, rfl⟩ := List.mem_map.mp inside
        obtain ⟨stem, ending, completes, rfl⟩ := Spelling.exists_of_mem_completeWord said
        have grown := cut_splice_textBefore line cursor ending
        refine ⟨line, rfl, stem, ending, completes, rfl, rfl, grown, ?_⟩
        rw [grown]
        show (String.ofList (stem ++ ending)).toList <:+ _
        rw [String.toList_ofList]
        exact List.suffix_append_self_iff.mpr completes.typed
    · cases member
  case noLine =>
    intro missing
    rw [missing] at offered
    rw [Editor.completions, offered, List.map_nil, ite_self]
  case closed =>
    intro line here closed
    rw [here] at offered
    dsimp only at offered
    rw [Editor.completions, offered, Spelling.completeWord_eq_nil closed, List.map_nil,
      List.map_nil, ite_self]

/-- **No completion is missing.**  In a document that is looked after, after a text that ends inside a
word there is one completion for each verified entry with the stem of the text in its head word, up to
the greatest number of completions. -/
theorem OnlySpelling.length_completions (only : session.OnlySpelling) {uri : Uri}
    (accepted : Editor.accepts session uri = true) {document : Document} {cursor : Position}
    {line : String} (here : document.line? cursor.line = some line) {c : Char}
    (last : (textBefore line cursor).getLast? = some c) (inner : Word.isEdge c = false) :
    (Editor.completions session uri document cursor).length
      = min session.workspace.settings.maxCompletions
          (session.lexicon.entries.countP fun entry => entry.level = .verified ∧
            Word.surfaceChars (Word.lastChars (textBefore line cursor))
              <:+: entry.headWord.toList) := by
  obtain ⟨front, text⟩ := List.getLast?_eq_some_iff.mp last
  have filled : Word.surface (Word.last (String.ofList (front ++ [c]))) ≠ "" := by
    rw [Word.surface_last, ne_eq, String.ofList_eq_empty_iff]
    exact Word.stem_ne_nil front inner
  have count : (session.checker.complete _).length = _ := Checker.length_complete filled
  rw [Word.surface_last, String.toList_ofList] at count
  have offered := only.completions_eq document cursor
  rw [here] at offered
  dsimp only at offered
  rw [text, Spelling.completeWord_concat inner] at offered
  rw [Editor.completions, if_pos accepted, offered, List.length_map, List.length_map,
    List.length_map, text]
  exact count

/-- A session that knows one word, with a letter of two columns in it. -/
def deseretSession : Session :=
  { workspace :=
      { configuration := Configuration.default
        settings := {}
        lexicon := (Lexicon.inMemory.define ⟨{}, ⟨0⟩⟩ "Bed𐐨ck" .verified).lexicon }
    registry := initialRegistry Configuration.default }

/-- A document with the start of that word after a bracket, and one with a comma behind. -/
def deseretDraft : Document :=
  ⟨"draft.codex", ["(ed𐐨", "bed,"]⟩

/-- A cursor inside the letter of two columns completes the word after it; there is nothing to
complete after a comma, and nothing past the last line. -/
theorem completions_complete_deseretDraft :
    let uri : Uri := ⟨"draft.codex", by decide +kernel⟩
    let items := Editor.completions deseretSession uri deseretDraft ⟨0, 4⟩
    let item : Editor.CompletionItem :=
      { label := "ed𐐨ck", detail := "spell-check", edit := some ⟨Range.caret ⟨0, 4⟩, "ck"⟩ }
    deseretSession.OnlySpelling ∧ Editor.accepts deseretSession uri = true ∧ items = [item] ∧
      (∃ line, deseretDraft.line? 0 = some line ∧
        ∃ stem ending, Completes deseretSession.lexicon (textBefore line ⟨0, 4⟩) stem ending ∧
          item.label = String.ofList (stem ++ ending)) ∧
      Editor.completions deseretSession uri deseretDraft ⟨1, 4⟩ = [] ∧
      Editor.completions deseretSession uri deseretDraft ⟨2, 0⟩ = [] := by
  intro uri items item
  have only : deseretSession.OnlySpelling := slot_initialRegistry Configuration.default
  have offered : items = [item] := by decide +kernel
  obtain ⟨complete, -, -⟩ := only.completions_complete uri deseretDraft ⟨0, 4⟩
  obtain ⟨-, -, closed⟩ := only.completions_complete uri deseretDraft ⟨1, 4⟩
  obtain ⟨-, missing, -⟩ := only.completions_complete uri deseretDraft ⟨2, 0⟩
  refine ⟨only, by decide +kernel, offered, ?_, ?_, missing rfl⟩
  · have member : item ∈ items := by
      rw [offered]
      exact List.mem_singleton_self item
    obtain ⟨line, here, stem, ending, completes, -, label, -⟩ := complete item member
    exact ⟨line, here, stem, ending, completes, label⟩
  · refine closed "bed," rfl fun c last => ?_
    have comma : (textBefore "bed," ⟨1, 4⟩).getLast? = some ',' := by decide +kernel
    rw [comma] at last
    cases last
    decide +kernel

end Session

end Orthography
