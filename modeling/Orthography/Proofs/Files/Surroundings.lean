import Orthography.Proofs.Files.NearMatches
import Orthography.Proofs.Text.Replaced

/-!
# What a correction leaves alone

A correction is written in the place of a whole token.  White space and punctuation outside of the
token stay, whether one token is corrected on request or all of them in a file (`Files.Corrects`).
White space and punctuation at the edges of the token go with it, as in `_helo_`, where the two low
lines belong to the token.  So the text around the surface form stays exactly when the token is its own
surface form.

On request, the edits of a line are the corrections of its flagged tokens
(`Spelling.mem_fixLine_iff`), and each of them replaces one token (`Files.corrects_replace`).  Fixing a
file corrects every flagged token that has a near candidate, by the nearest one
(`Files.corrects_substitutedLine`).
-/

namespace Orthography

set_option autoImplicit false

namespace Spelling

variable {workspace : Workspace} {line : String} {suggestion : Suggestion} {edit : String}

/-- The suggestions for some tokens that have an edit are the corrections of the tokens. -/
theorem mem_fixTokens_iff (edits : suggestion.edit = some edit) {offered : List String}
    {tokens : List Token} :
    suggestion ∈ fixTokens workspace line offered tokens
      ↔ ∃ token ∈ tokens, suggestion ∈ corrections workspace line token := by
  have noAddition (level : Level) (word : String) : suggestion ≠ addition level word := by
    rintro rfl
    cases edits
  have noneOfAll (level : Level) (words : List String) : suggestion ∉ additionOfAll level words := by
    intro member
    rw [additionOfAll] at member
    split at member
    · rw [List.mem_singleton.mp member] at edits
      cases edits
    · cases member
  induction tokens generalizing offered with
  | nil => simp [fixTokens, noneOfAll]
  | cons token rest ih =>
    simp only [fixTokens, List.mem_append, List.mem_cons, exists_eq_or_imp]
    refine or_congr_right ?_
    split
    · exact ih
    · exact List.mem_cons.trans ((or_iff_right (noAddition _ _)).trans ih)

/-- The suggestions for a line that have an edit are the corrections of its flagged tokens: the
candidates for each of them other than the word itself, with the capital of the word taken over. -/
theorem mem_fixLine_iff (edits : suggestion.edit = some edit) :
    suggestion ∈ fixLine workspace line
      ↔ ∃ token ∈ flagged workspace line, ∃ candidate ∈ workspace.checker.check token.text,
          Word.key candidate ≠ Word.key token.text ∧
            { message := token.text ++ " → " ++ Word.matchCase token.text candidate
              source := source
              edit := some (token.replace line (Word.matchCase token.text candidate)) }
              = suggestion := by
  rw [fixLine, mem_fixTokens_iff edits]
  simp only [corrections, List.mem_filterMap, Option.ite_none_left_eq_some, Option.some.injEq, ne_eq]

end Spelling

namespace Files

open Spelling (flagged fixLine)

/-- What it means that tokens of a line are corrected in the line after it. -/
structure Corrects (correction : Token → String) (line : String) (tokens : List Token)
    (after : String) : Prop where
  /-- What stands before, between and after the tokens stays. -/
  around : Token.Replaced correction line.toList 0 tokens after.toList
  /-- What stands around their surface forms stays exactly when they are their own surface forms. -/
  surfaceOnly :
    Token.Replaced (fun token => Word.withSurface token.text (correction token)) line.toList 0 tokens
        after.toList
      ↔ ∀ token ∈ tokens, Word.surface token.text = token.text

/-- Replacing a token of a line by its bytes corrects it. -/
theorem corrects_replace {line : String} {token : Token} (member : token ∈ Token.ofLine line)
    (correction : String) :
    Corrects (fun _ => correction) line [token] (token.replace line correction) := by
  have around := Token.replaced_replace member correction
  exact ⟨around, around.surfaceOnly_iff⟩

/-- The flagged tokens of a line that have a near correction. -/
def corrected (workspace : Workspace) (line : String) : List Token :=
  (flagged workspace line).filter fun token => !(nearMatches workspace.checker token.text).isEmpty

/-- Replacing all flagged tokens of a line at once corrects those with a near correction. -/
theorem corrects_substitutedLine (workspace : Workspace) (line : String) :
    Corrects (replacement workspace.checker) line (corrected workspace line)
      (substitutedLine workspace line) := by
  have whole := Token.replaced_substitute (replacement workspace.checker)
    (Spelling.laid_flagged workspace line)
  have around := whole.filter (fun token => !(nearMatches workspace.checker token.text).isEmpty) ?_
  · exact ⟨around, around.surfaceOnly_iff⟩
  · -- A token without a near correction is replaced by itself.
    intro token _ none
    rw [Bool.not_eq_false', List.isEmpty_iff] at none
    rw [replacement, none, List.headD_nil]

/-- A flagged token with a near correction is replaced by a candidate other than the word itself, with
the capital of the word taken over. -/
theorem exists_candidate_of_mem_corrected {workspace : Workspace} {line : String} {token : Token}
    (member : token ∈ corrected workspace line) :
    ∃ candidate ∈ workspace.checker.check token.text, Word.key candidate ≠ Word.key token.text ∧
      replacement workspace.checker token = Word.matchCase token.text candidate := by
  have some : nearMatches workspace.checker token.text ≠ [] := by
    simpa using (List.mem_filter.mp member).2
  rcases replacement_cases workspace.checker token with near | ⟨none, -⟩
  · obtain ⟨candidate, offered, other, -, same⟩ := mem_nearMatches.mp near
    exact ⟨candidate, offered, other, same.symm⟩
  · exact absurd none some

/-- What the corrections come to that are suggested for a line. -/
structure CorrectsOnRequest (workspace : Workspace) (line : String) : Prop where
  /-- Each edit corrects a flagged token of the line by a candidate for it. -/
  each : ∀ suggestion ∈ fixLine workspace line, ∀ edit, suggestion.edit = some edit →
    ∃ token ∈ flagged workspace line, ∃ candidate ∈ workspace.checker.check token.text,
      Word.key candidate ≠ Word.key token.text ∧
        Corrects (fun _ => Word.matchCase token.text candidate) line [token] edit
  /-- Every such candidate is suggested. -/
  every : ∀ token ∈ flagged workspace line, ∀ candidate ∈ workspace.checker.check token.text,
    Word.key candidate ≠ Word.key token.text →
      ∃ suggestion ∈ fixLine workspace line, ∃ edit, suggestion.edit = some edit ∧
        Corrects (fun _ => Word.matchCase token.text candidate) line [token] edit

/-- What the corrections come to that fixing a file makes, the file at a path holding a text with some
document. -/
structure CorrectsAll (session : Session) (disk : Disk) (path before : String)
    (document : Document) : Prop where
  /-- The file is written with all lines corrected, unless nothing is replaced by something else. -/
  written : (fix session disk path).2.2
    = if replacedCount session.workspace document = 0 then disk
      else (disk.write path (bytesAfter session.workspace before document)).2
  /-- In the latter case the lines stay as they are. -/
  kept : replacedCount session.workspace document = 0 →
    substituted session.workspace document = document
  /-- In each line those flagged tokens are corrected that have a near correction. -/
  lines : ∀ line ∈ document.lines,
    Corrects (replacement session.checker) line (corrected session.workspace line)
      (substitutedLine session.workspace line)
  /-- The correction comes from a candidate for the token. -/
  candidates : ∀ line ∈ document.lines, ∀ token ∈ corrected session.workspace line,
    ∃ candidate ∈ session.checker.check token.text, Word.key candidate ≠ Word.key token.text ∧
      replacement session.checker token = Word.matchCase token.text candidate

/-- **Correcting a word keeps what is around the token.**  Everything outside of the corrected tokens
stays, on request and when a file of at most `2 ^ 32` lines is fixed.  White space and punctuation at
the edges of a token are replaced with it, so that the text around the surface forms stays exactly when
the tokens have none.

With more lines than that a line would be taken for an earlier one.  Columns are counted without a
bound here; that counting them in 32 bits comes to the same is `Guarded.fixFile_eq`, for lines of fewer
than `2 ^ 32` units. -/
theorem corrections_keep_surroundings :
    (∀ (workspace : Workspace) (line : String), CorrectsOnRequest workspace line) ∧
      ∀ session : Session, session.OnlySpelling →
        ∀ (disk : Disk) (path before : String) (document : Document),
          readDocument disk path = .ok (before, document) →
            document.lines.length ≤ Nat.pow 2 32 →
              CorrectsAll session disk path before document := by
  refine ⟨fun workspace line => ⟨?each, ?every⟩, ?file⟩
  case each =>
    intro suggestion member edit edits
    obtain ⟨token, flag, candidate, offered, other, rfl⟩ :=
      (Spelling.mem_fixLine_iff edits).mp member
    obtain rfl := Option.some.inj edits
    have inside := ((Spelling.mem_flagged workspace).mp flag).2.1
    exact ⟨token, flag, candidate, offered, other, corrects_replace inside _⟩
  case every =>
    intro token flag candidate offered other
    have inside := ((Spelling.mem_flagged workspace).mp flag).2.1
    exact ⟨_, (Spelling.mem_fixLine_iff rfl).mpr ⟨token, flag, candidate, offered, other, rfl⟩, _,
      rfl, corrects_replace inside _⟩
  case file =>
    intro session only disk path before document opened numbered
    have outcomes := fix_eq opened (only.diagnostics_eq numbered)
    refine ⟨?written, substituted_eq_self session.workspace,
      fun line _ => corrects_substitutedLine session.workspace line,
      fun _ _ _ => exists_candidate_of_mem_corrected⟩
    rw [outcomes]
    split
    · rfl
    · rw [writeDocument, bytesAfter]
      split
      · next success => rw [success]
      · next failure => rw [failure]

/-- A session that knows three words. -/
def sayingSession : Session :=
  { workspace :=
      { configuration := Configuration.default
        settings := { maxDistance := Binary64.ofRatio 4 10 }
        lexicon :=
          { Lexicon.inMemory with
            index := Lexicon.addEntries KeyMap.empty
              [Entry.ofWord "say" .verified ⟨0⟩, Entry.ofWord "hello" .verified ⟨1⟩,
                Entry.ofWord "now" .verified ⟨2⟩] } }
    registry := Session.initialRegistry Configuration.default }

/-- A text with two misspelled words, one of them in quotes. -/
def saying : String := "Say “Helo”, nw!\n"

/-- A disk with this text. -/
def sayingDisk : Disk :=
  { nodes := [(["draft"], .file saying.toUTF8)] }

/-- The quotes, the comma and the exclamation mark are outside of the tokens and stay. -/
theorem corrections_keep_surroundings_saying :
    let document := Document.ofText "draft" saying
    sayingSession.OnlySpelling ∧ readDocument sayingDisk "draft" = .ok (saying, document) ∧
      document.lines = ["Say “Helo”, nw!"] ∧
      (corrected sayingSession.workspace "Say “Helo”, nw!").map Token.text = ["Helo", "nw"] ∧
      substitutedLine sayingSession.workspace "Say “Helo”, nw!" = "Say “Hello”, now!" ∧
      CorrectsAll sayingSession sayingDisk "draft" saying document ∧
      CorrectsOnRequest sayingSession.workspace "Say “Helo”, nw!" := by
  intro document
  have here : sayingDisk.locate "draft" = some ["draft"] := by decide +kernel
  have read : sayingDisk.readText? "draft" = some saying := by
    rw [Disk.readText?, Disk.read?, here]
    exact Bytes.text?_toUTF8 saying
  have opened : readDocument sayingDisk "draft" = .ok (saying, document) := by
    rw [readDocument, read]
  have only : sayingSession.OnlySpelling := Session.slot_initialRegistry Configuration.default
  have numbered : document.lines.length ≤ Nat.pow 2 32 := by decide +kernel
  obtain ⟨requested, fixed⟩ := corrections_keep_surroundings
  exact ⟨only, opened, by decide +kernel, by decide +kernel, by decide +kernel,
    fixed sayingSession only _ _ _ _ opened numbered, requested sayingSession.workspace _⟩

/-- The low lines around a word are part of the token and are lost: they would stay if only the
surface form were replaced. -/
theorem low_lines_not_kept :
    let line := "say _helo_ now"
    let token : Token := ⟨"_helo_", 4, 4, 10⟩
    token ∈ flagged sayingSession.workspace line ∧ Word.surface token.text = "helo" ∧
      sayingSession.checker.check token.text = ["hello"] ∧
      Word.withSurface token.text "hello" = "_hello_" ∧
      (fixLine sayingSession.workspace line).filterMap Suggestion.edit = ["say hello now"] ∧
      substitutedLine sayingSession.workspace line = "say hello now" ∧
      ¬Token.Replaced (fun token => Word.withSurface token.text "hello") line.toList 0 [token]
        "say hello now".toList := by
  intro line token
  have inside : token ∈ Token.ofLine line := by decide +kernel
  have replaced : token.replace line "hello" = "say hello now" := by decide +kernel
  have edges : Word.surface token.text ≠ token.text := by decide +kernel
  have corrects := corrects_replace inside "hello"
  rw [replaced] at corrects
  refine ⟨by decide +kernel, by decide +kernel, by decide +kernel, by decide +kernel,
    by decide +kernel, by decide +kernel, ?_⟩
  exact fun within => edges (corrects.surfaceOnly.mp within token (List.mem_singleton_self token))

end Files

end Orthography
