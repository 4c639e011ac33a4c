import Orthography.Configuration.Settings
import Orthography.Lexicon.Basic
import Orthography.Word.Distance
import Orthography.Word.Exempt

/-!
# Checking words

The checker decides whether a word is correct, ranks corrections for a word that is not, and
completes words.  It looks at a lexicon and changes nothing.
-/

namespace Orthography

set_option autoImplicit false

/-- A lexicon, and what counts as correct. -/
structure Checker where
  lexicon : Lexicon
  settings : Settings

namespace Checker

/-- Whether a word is not checked at all: it is exempt, or a pattern to be ignored occurs in its
surface form. -/
def ignores (checker : Checker) (word : String) : Bool :=
  Word.isExempt word
    || checker.settings.ignorePatterns.any fun pattern => pattern.isIn (Word.surface word)

/-- Whether a word has to be corrected: it is checked, and no entry of an accepted level is found
under it. -/
def needsCorrection (checker : Checker) (word : String) : Bool :=
  !checker.ignores word &&
    match checker.lexicon.get? word with
    | some entry => !checker.settings.accepts entry.level
    | none => true

/-- The entries of an accepted level, in the order of their keys. -/
def accepted (checker : Checker) : List Entry :=
  checker.lexicon.entriesAt checker.settings.acceptedLevels

/-- Entries with a number each, in ascending order of the numbers; entries with the same number stay
in their order. -/
def ranked {α : Type} (scored : List (Nat × α)) : List α :=
  (scored.mergeSort fun first second => first.1 ≤ second.1).map Prod.snd

/-- The accepted entries that are near enough to a key, each with its distance. -/
def candidates (checker : Checker) (key : String) : List (Nat × Entry) :=
  checker.accepted.filterMap fun entry =>
    let distance := Word.relativeDistance entry.key key
    if distance.le checker.settings.maxDistance then some (distance.magnitude, entry) else none

/-- What to offer when nothing is near enough: the first accepted entry, or the first entry of any
level. -/
def fallback (checker : Checker) : List String :=
  match checker.accepted, checker.lexicon.entries with
  | entry :: _, _ => [entry.headWord]
  | [], entry :: _ => [entry.headWord]
  | [], [] => []

/-- Corrections for a word, best first.  A word that needs none is returned as its key.  While the
lexicon has entries there is always something to offer. -/
def check (checker : Checker) (word : String) : List String :=
  let key := Word.key word
  if !checker.needsCorrection word then [key]
  else
    match checker.candidates key with
    | [] => checker.fallback
    | near => ((ranked near).take checker.settings.maxSuggestions).map Entry.headWord

/-- The part of a text after the first occurrence of another one. -/
def afterFirst (part : List Char) : List Char → Option (List Char)
  | [] => if part.isEmpty then some [] else none
  | c :: rest =>
    if part.isPrefixOf (c :: rest) then some ((c :: rest).drop part.length)
    else afterFirst part rest

/-- The verified head words that contain a text: what follows its first occurrence, with the edit
distance between the two. -/
def endings (checker : Checker) (stem : String) : List (Nat × String) :=
  (checker.lexicon.entriesAt [.verified]).filterMap fun entry =>
    (afterFirst stem.toList entry.headWord.toList).map fun rest =>
      (Word.distance (String.ofList rest) stem, String.ofList rest)

/-- Endings that complete a word, those nearest to its surface form first; none for a word that is
nothing but white space and punctuation. -/
def complete (checker : Checker) (word : String) : List String :=
  let stem := Word.surface word
  if stem.isEmpty then []
  else (ranked (checker.endings stem)).take checker.settings.maxCompletions

end Checker

end Orthography
