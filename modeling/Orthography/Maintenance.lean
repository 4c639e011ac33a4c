import Orthography.Report.Text
import Orthography.Session

/-!
# Looking after a lexicon

The commands that list, add, remove and look up words, with what each of them prints.
-/

namespace Orthography.Maintenance

set_option autoImplicit false

open Report

/-- What a command prints, and what comes of it. -/
structure Outcome (α : Type) where
  printed : String
  result : Except Failure α
  session : Session
  world : World

/-- The sign of a level in a list. -/
def marker (colour : Bool) : Level → String
  | .verified => tint colour .green "✓"
  | .verifiedAuto => tint colour .cyan "~"
  | .unverified => tint colour .yellow "?"

/-- One entry of a list. -/
def entryText (colour : Bool) (entry : Entry) : String :=
  line ("  " ++ marker colour entry.level ++ " " ++ bold colour entry.headWord ++ " "
    ++ dim colour ("(" ++ entry.level.name ++ ")"))

/-- The list of the entries, or of those of one level. -/
def list (session : Session) (colour : Bool) (level : Option Level) : String :=
  let entries := session.lexicon.entries.filter fun entry =>
    match level with
    | some level => entry.level = level
    | none => true
  if entries.isEmpty then
    line (tint colour .yellow "No dictionary entries.")
      ++ line ("Run " ++ tint colour .cyan "codexspell dict add <WORDS>..." ++ " to add some.")
  else
    String.join (entries.map (entryText colour)) ++ "\n"
      ++ line (Decimal.ofNat entries.length ++ " " ++ plural entries.length "entry" "entries")

/-- Adds words: how many were new. -/
def add (session : Session) (world : World) (colour : Bool) (words : List String)
    (level : Option Level) : Outcome Nat :=
  let change := session.addWords world words level
  match change.result with
  | .error failure => ⟨"", .error failure, change.session, change.world⟩
  | .ok added =>
    let name := (level.getD session.configuration.addedWordLevel).name
    let printed :=
      line (strong colour .green "✓" ++ " Added " ++ strong colour .green (Decimal.ofNat added)
        ++ " of " ++ Decimal.ofNat words.length ++ " " ++ plural words.length "word" "words"
        ++ " as " ++ tint colour .cyan name)
    ⟨printed, .ok added, change.session, change.world⟩

/-- The line about a word that was to be removed. -/
def removalText (colour : Bool) (word : String) (count : Nat) : String :=
  if count = 0 then
    line ("  " ++ tint colour .red "✗" ++ " " ++ tint colour .yellow word ++ " not in dictionary")
  else line ("  " ++ tint colour .green "✓" ++ " " ++ word)

/-- Removes words, up to the first failure: how many entries that were. -/
def remove (session : Session) (world : World) (colour : Bool) : List String → Outcome Nat
  | [] => ⟨"", .ok 0, session, world⟩
  | word :: rest =>
    let change := session.remove world word
    match change.result with
    | .error failure => ⟨"", .error failure, change.session, change.world⟩
    | .ok count =>
      let after := remove change.session change.world colour rest
      { after with
        printed := removalText colour word count ++ after.printed
        result := after.result.map (count + ·) }

/-- How many bytes the file at a path has; none if there is no file.  A directory counts as one
block. -/
def sizeAt (disk : Disk) (path : String) : Nat :=
  match disk.at? path with
  | some (.file bytes) => bytes.size
  | some .directory => 4096
  | none => 0

/-- The line about one file of a lexicon. -/
def fileText (lexicon : Lexicon) (disk : Disk) (colour : Bool) (path : String) : String :=
  let primary := if lexicon.primaryPath = some path then tint colour .cyan " (primary)" else ""
  line ("  File: " ++ path ++ " " ++ dim colour (Decimal.ofNat (sizeAt disk path) ++ " bytes")
    ++ primary)

/-- What there is to say about a lexicon. -/
def info (session : Session) (disk : Disk) (colour : Bool) : String :=
  let lexicon := session.lexicon
  let configuration := session.configuration
  let count (level : Level) : String :=
    line ("    " ++ level.name ++ ": " ++ Decimal.ofNat (lexicon.entriesAt [level]).length)
  let mode :=
    if configuration.relativeChecking then "relative (verified and verified_auto accepted)"
    else "strict (verified only)"
  let files :=
    if lexicon.paths.isEmpty then
      line ("  " ++ tint colour .yellow "No backing files (in-memory only)")
    else String.join (lexicon.paths.map (fileText lexicon disk colour))
  line (bold colour "Dictionary")
    ++ line ("  Language: " ++ configuration.language.getD "(unscoped)")
    ++ line ("  Words: " ++ tint colour .yellow (Decimal.ofNat lexicon.size))
    ++ count .verified ++ count .verifiedAuto ++ count .unverified
    ++ line ("  Checking: " ++ mode) ++ files

/-- Corrections for a word; none for a word that is correct. -/
def suggest (session : Session) (colour : Bool) (word : String) : String × List String :=
  if !session.checker.needsCorrection word then
    (line (strong colour .green "✓" ++ " " ++ bold colour word ++ " is correct"), [])
  else
    match session.checker.check word with
    | [] =>
      (line (strong colour .red "✗" ++ " No suggestions for " ++ tint colour .yellow word), [])
    | candidates =>
      (line (strong colour .red word ++ " " ++ dim colour "→")
        ++ String.join
          (candidates.map fun candidate => line ("  " ++ tint colour .green candidate)),
        candidates)

/-- Completions of a word. -/
def complete (session : Session) (colour : Bool) (word : String) : String × List String :=
  match session.checker.complete word with
  | [] => (line (tint colour .yellow "No completions."), [])
  | endings =>
    (String.join (endings.map fun ending =>
      line ("  " ++ dim colour word ++ tint colour .green ending)), endings)

end Orthography.Maintenance
