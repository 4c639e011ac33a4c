import Orthography.Proofs.Guarded.Checker
import Orthography.Proofs.Guarded.Token
import Orthography.Proofs.Session

/-!
# The spelling analyzers on guard

The analyzers look at the tokens of a line, correct some of them and replace these in the line.  As
long as the units of the line can be counted, all of this is possible (`Guarded.diagnoseFrom_eq`,
`Guarded.fixLine_eq`): what is replaced is always a token of the line that it is replaced in.  The
last word of a text can always be completed (`Guarded.completeWord_eq`).
-/

namespace Orthography.Guarded

set_option autoImplicit false

open Columns (width)
open Traversal (filterMapM_eq_some)

variable (workspace : Workspace)

/-- The tokens of a line that have to be corrected. -/
def flagged (line : String) : Option (List Token) :=
  if Word.isScriptureReference line then some []
  else do
    let found ← tokens line
    return found.filter fun token => workspace.checker.needsCorrection token.text

/-- The warnings about lines, the first of which has the given number. -/
def diagnoseFrom (index : Nat) : List String → Option (List Suggestion)
  | [] => some []
  | line :: rest => do
    let here ← flagged workspace line
    let below ← diagnoseFrom (index + 1) rest
    return here.map (Spelling.warning index) ++ below

/-- The corrections for a token of a line. -/
def corrections (line : String) (token : Token) : Option (List Suggestion) := do
  let candidates ← check workspace.checker token.text
  candidates.filterMapM fun candidate =>
    if Word.key candidate = Word.key token.text then some none
    else do
      let replacement := Word.matchCase token.text candidate
      let edited ← replace token line replacement
      return some
        { message := token.text ++ " → " ++ replacement
          source := Spelling.source
          edit := some edited }

/-- The suggestions for the tokens of a line, given the words that were already offered for
addition. -/
def fixTokens (line : String) (offered : List String) : List Token → Option (List Suggestion)
  | [] => some (Spelling.additionOfAll workspace.configuration.addedWordLevel offered)
  | token :: rest => do
    let corrected ← corrections workspace line token
    if offered.any fun word => Word.key word = Word.key token.text then
      let others ← fixTokens line offered rest
      return corrected ++ others
    else
      let others ← fixTokens line (offered ++ [token.text]) rest
      return corrected
        ++ Spelling.addition workspace.configuration.addedWordLevel token.text :: others

/-- The suggestions for a line. -/
def fixLine (line : String) : Option (List Suggestion) := do
  let found ← flagged workspace line
  fixTokens workspace line [] found

/-- Completions of the last word of a text. -/
def completeWord (text : String) : Option (List Suggestion) :=
  let word := Word.last text
  if (word.toList.getLast?).any Word.isPunctuation then some []
  else do
    let endings ← complete workspace.checker word
    return endings.map fun ending =>
      { message := Word.surface word ++ ending
        source := Spelling.source
        severity := .hint
        edit := some ending }

variable {line : String}

theorem flagged_eq (narrow : width line.toList < Nat.pow 2 32) :
    flagged workspace line = some (Spelling.flagged workspace line) := by
  rw [flagged, Spelling.flagged, tokens_eq narrow]
  split <;> rfl

/-- **The warnings about lines are made** if the units of each line can be counted. -/
theorem diagnoseFrom_eq (index : Nat) {lines : List String}
    (narrow : ∀ line ∈ lines, width line.toList < Nat.pow 2 32) :
    diagnoseFrom workspace index lines = some (Spelling.diagnoseFrom workspace index lines) := by
  induction lines generalizing index with
  | nil => rfl
  | cons line rest ih =>
    obtain ⟨here, below⟩ := List.forall_mem_cons.mp narrow
    rw [diagnoseFrom, flagged_eq workspace here, ih (index + 1) below]
    rfl

theorem corrections_eq {token : Token} (member : token ∈ Token.ofLine line) :
    corrections workspace line token = some (Spelling.corrections workspace line token) := by
  rw [corrections, check_eq, Option.bind_eq_bind, Option.bind_some]
  refine filterMapM_eq_some fun candidate _ => ?_
  split
  · rfl
  · dsimp only
    rw [replace_eq member]
    rfl

/-- All of the tokens that suggestions are made for are tokens of the line. -/
theorem fixTokens_eq {tokens : List Token} (members : ∀ token ∈ tokens, token ∈ Token.ofLine line)
    (offered : List String) :
    fixTokens workspace line offered tokens
      = some (Spelling.fixTokens workspace line offered tokens) := by
  induction tokens generalizing offered with
  | nil => rfl
  | cons token rest ih =>
    obtain ⟨here, others⟩ := List.forall_mem_cons.mp members
    rw [fixTokens, corrections_eq workspace here, Option.bind_eq_bind, Option.bind_some,
      Spelling.fixTokens]
    split
    · rw [ih others offered]
      rfl
    · rw [ih others (offered ++ [token.text])]
      rfl

/-- **The suggestions for a line are made** if its units can be counted. -/
theorem fixLine_eq (narrow : width line.toList < Nat.pow 2 32) :
    fixLine workspace line = some (Spelling.fixLine workspace line) := by
  rw [fixLine, flagged_eq workspace narrow]
  exact fixTokens_eq workspace (fun token flag => ((Spelling.mem_flagged workspace).mp flag).2.1) []

/-- **The last word of a text is completed.** -/
theorem completeWord_eq (text : String) :
    completeWord workspace text = some (Spelling.completeWord workspace text) := by
  rw [completeWord, Spelling.completeWord, complete_eq]
  split <;> rfl

end Orthography.Guarded
