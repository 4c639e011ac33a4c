import Orthography.Analyzer.Registry
import Orthography.Checker
import Orthography.Text.Token

/-!
# The spelling analyzers

Three analyzers look after spelling: one flags words, one offers corrections and additions to the
lexicon for the words of a line, and one completes the word before the cursor.
-/

namespace Orthography

set_option autoImplicit false

/-- What the analyzers of a session look at. -/
structure Workspace where
  configuration : Configuration
  settings : Settings
  lexicon : Lexicon

/-- The checker of a workspace. -/
def Workspace.checker (workspace : Workspace) : Checker :=
  ⟨workspace.lexicon, workspace.settings⟩

namespace Spelling

/-- The name that the spelling analyzers go by. -/
def source : String := "spell-check"

/-- The tokens of a line that have to be corrected; a line with a scripture reference has none. -/
def flagged (workspace : Workspace) (line : String) : List Token :=
  if Word.isScriptureReference line then []
  else (Token.ofLine line).filter fun token => workspace.checker.needsCorrection token.text

/-- The warning about a token. -/
def warning (index : Nat) (token : Token) : Suggestion :=
  { message := "Unknown word: '" ++ token.text ++ "'"
    source := source
    line := some index
    span := some (Span.between token.start token.stop) }

/-- The warnings about lines, the first of which has the given number. -/
def diagnoseFrom (workspace : Workspace) (index : Nat) : List String → List Suggestion
  | [] => []
  | line :: rest =>
    (flagged workspace line).map (warning index) ++ diagnoseFrom workspace (index + 1) rest

/-- One warning for each token that has to be corrected. -/
def diagnose (workspace : Workspace) (lines : List String) : List Suggestion :=
  diagnoseFrom workspace 0 lines

/-- The corrections for a token of a line, each with its capital taken over and as an edit of the
whole line.  The word itself is no correction. -/
def corrections (workspace : Workspace) (line : String) (token : Token) : List Suggestion :=
  (workspace.checker.check token.text).filterMap fun candidate =>
    if Word.key candidate = Word.key token.text then none
    else
      let replacement := Word.matchCase token.text candidate
      some
        { message := token.text ++ " → " ++ replacement
          source := source
          edit := some (token.replace line replacement) }

/-- The offer to add a word to the lexicon. -/
def addition (level : Level) (word : String) : Suggestion :=
  { message := "Add '" ++ word ++ "' to dictionary"
    source := source
    command := some (.addWords [word] level) }

/-- The offer to add all words at once, if there are several. -/
def additionOfAll (level : Level) (words : List String) : List Suggestion :=
  if 1 < words.length then
    [{ message := "Add all " ++ Decimal.ofNat words.length ++ " words to dictionary"
       source := source
       command := some (.addWords words level) }]
  else []

/-- The suggestions for the tokens of a line, given the words that were already offered for
addition, in order. -/
def fixTokens (workspace : Workspace) (line : String) (offered : List String) :
    List Token → List Suggestion
  | [] => additionOfAll workspace.configuration.addedWordLevel offered
  | token :: rest =>
    let known := offered.any fun word => Word.key word = Word.key token.text
    corrections workspace line token ++
      if known then fixTokens workspace line offered rest
      else
        addition workspace.configuration.addedWordLevel token.text
          :: fixTokens workspace line (offered ++ [token.text]) rest

/-- The suggestions for a line: for each token that has to be corrected its corrections and, the
first time, the offer to add it; at the end, if there are several words, the offer to add all. -/
def fixLine (workspace : Workspace) (line : String) : List Suggestion :=
  fixTokens workspace line [] (flagged workspace line)

/-- Completions of the last word of a text, to be inserted after it.  A word that ends in
punctuation is complete. -/
def completeWord (workspace : Workspace) (text : String) : List Suggestion :=
  let word := Word.last text
  if (word.toList.getLast?).any Word.isPunctuation then []
  else
    (workspace.checker.complete word).map fun ending =>
      { message := Word.surface word ++ ending
        source := source
        severity := .hint
        edit := some ending }

/-- The analyzer that flags words. -/
def diagnosticAnalyzer : Analyzer Workspace :=
  .document fun workspace view => .ok (diagnose workspace view.lines)

/-- The analyzer that offers corrections and additions. -/
def actionAnalyzer : Analyzer Workspace :=
  .line fun workspace line => .ok (fixLine workspace line)

/-- The analyzer that completes words. -/
def completionAnalyzer : Analyzer Workspace :=
  .document fun workspace view =>
    match view.beforeCursor? with
    | some text => .ok (completeWord workspace text)
    | none => .ok []

/-- Registers the spelling analyzers.  What was registered before one that is refused stays. -/
def register (registry : Registry Workspace) : Except Failure Unit × Registry Workspace :=
  match registry.register .diagnostic diagnosticAnalyzer source
      (some "Flags words missing from the project dictionary") with
  | .error failure => (.error failure, registry)
  | .ok (_, registry) =>
    match registry.register .action actionAnalyzer source
        (some "Offers corrections and dictionary additions") with
    | .error failure => (.error failure, registry)
    | .ok (_, registry) =>
      match registry.register .completion completionAnalyzer source
          (some "Completes the word before the cursor") with
      | .error failure => (.error failure, registry)
      | .ok (_, registry) => (.ok (), registry)

end Spelling

end Orthography
