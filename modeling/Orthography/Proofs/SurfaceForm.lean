import Orthography.Checker
import Orthography.Proofs.Lexicon.Likeness
import Orthography.Proofs.Word.Edges

/-!
# White space and punctuation around words do not matter

A word is looked up, judged, corrected, completed, added and removed in modules that do not know of
each other.  Each of them goes from the word to its surface form before it does anything else, and
never looks at the word again.  So two words with one surface form can stand for each other
everywhere (`Word.Interchangeable`, `Word.interchangeable_of_surface`).  White space and punctuation
around a word do not change its surface form (`Word.surface_append`), and so can be written or left
out.  Inside a word they do matter: the surface form lacks what stands at the edges and nothing else
(`Word.exists_eq_surface`, `Word.edges_never_matter`).
-/

namespace Orthography

set_option autoImplicit false

/-- Two words can stand for each other: whatever is asked about them has the same answer, in any
lexicon and with any settings, and whatever is done with them has the same outcome. -/
structure Word.Interchangeable (first second : String) : Prop where
  surface : Word.surface first = Word.surface second
  key : Word.key first = Word.key second
  exempt : Word.isExempt first = Word.isExempt second
  needsCorrection : ∀ checker : Checker,
    checker.needsCorrection first = checker.needsCorrection second
  check : ∀ checker : Checker, checker.check first = checker.check second
  complete : ∀ checker : Checker, checker.complete first = checker.complete second
  get : ∀ lexicon : Lexicon, lexicon.get? first = lexicon.get? second
  contains : ∀ lexicon : Lexicon, lexicon.contains first = lexicon.contains second
  remove : ∀ (lexicon : Lexicon) (world : World),
    lexicon.remove world first = lexicon.remove world second
  define : ∀ (lexicon : Lexicon) (world : World) (level : Level),
    lexicon.define world first level = lexicon.define world second level
  /-- With two supplies of identifiers, definitions differ in the identifiers that are new at
  most. -/
  defineAlike : ∀ (lexicon : Lexicon) (disk : Disk) (here there : Supply) (level : Level),
    Lexicon.Change.Alike here there (lexicon.define ⟨disk, here⟩ first level)
      (lexicon.define ⟨disk, there⟩ second level)

section OneSurface

variable {first second : String} (same : Word.surface first = Word.surface second)

include same

namespace Word

/-- Words with one surface form have one key. -/
theorem key_congr : key first = key second := by
  rw [← key_surface first, same, key_surface]

/-- Words with one surface form are exempt together. -/
theorem isExempt_congr : isExempt first = isExempt second := by
  have chars : surfaceChars first.toList = surfaceChars second.toList :=
    String.ofList_injective same
  rw [isExempt, isExempt, isExemptChars, isExemptChars, chars]

end Word

namespace Lexicon

variable (lexicon : Lexicon)

/-- Words with one surface form are found under the same entry. -/
theorem get?_congr : lexicon.get? first = lexicon.get? second := by
  rw [get?, get?, Word.key_congr same]

/-- Words with one surface form have an entry together. -/
theorem contains_congr : lexicon.contains first = lexicon.contains second := by
  rw [contains, contains, Word.key_congr same]

/-- Removals of words with one surface form have one outcome. -/
theorem remove_congr (world : World) :
    lexicon.remove world first = lexicon.remove world second := by
  rw [remove, remove, Word.key_congr same]

/-- Definitions of words with one surface form have one outcome: the entry that is made is the
same. -/
theorem define_congr (world : World) (level : Level) :
    lexicon.define world first level = lexicon.define world second level := by
  have entry : Entry.ofWord first level = Entry.ofWord second level := by
    funext id
    rw [Entry.ofWord, Entry.ofWord, same]
  rw [define, define, Word.key_congr same, entry]

end Lexicon

namespace Checker

variable (checker : Checker)

/-- Words with one surface form are left unchecked together. -/
theorem ignores_congr : checker.ignores first = checker.ignores second := by
  rw [ignores, ignores, Word.isExempt_congr same, same]

/-- Words with one surface form have to be corrected together. -/
theorem needsCorrection_congr_surface :
    checker.needsCorrection first = checker.needsCorrection second := by
  rw [needsCorrection, needsCorrection, checker.ignores_congr same,
    checker.lexicon.get?_congr same]

/-- Words with one surface form have the same corrections. -/
theorem check_congr : checker.check first = checker.check second := by
  rw [check, check, Word.key_congr same, checker.needsCorrection_congr_surface same]

/-- Words with one surface form have the same completions. -/
theorem complete_congr : checker.complete first = checker.complete second := by
  rw [complete, complete, same]

end Checker

/-- Words with one surface form can stand for each other. -/
theorem Word.interchangeable_of_surface : Word.Interchangeable first second where
  surface := same
  key := Word.key_congr same
  exempt := Word.isExempt_congr same
  needsCorrection checker := checker.needsCorrection_congr_surface same
  check checker := checker.check_congr same
  complete checker := checker.complete_congr same
  get lexicon := lexicon.get?_congr same
  contains lexicon := lexicon.contains_congr same
  remove lexicon := lexicon.remove_congr same
  define lexicon := lexicon.define_congr same
  defineAlike lexicon disk here there level := by
    rw [← lexicon.define_congr same]
    exact (Lexicon.Alike.refl lexicon).define (.start disk) first level

end OneSurface

namespace Word

/-- **White space and punctuation around a word never matter.**  A word can stand for the same word
with any of them before and after it.  Nothing else is left out: the word is its surface form with
some of them around it. -/
theorem edges_never_matter (word : String) :
    (∀ front back, AllEdges front → AllEdges back →
        Interchangeable (front ++ word ++ back) word) ∧
      ∃ front back, AllEdges front ∧ AllEdges back ∧ word = front ++ surface word ++ back := by
  refine ⟨fun front back before after => ?_, exists_eq_surface word⟩
  exact interchangeable_of_surface (surface_append word before after)

/-- A word in quotes is found under the entry of the bare word.  The apostrophe inside stays, and
without it there is another word.  A verse marker in brackets is as exempt as without them. -/
theorem edges_never_matter_quoted :
    let lexicon := (Lexicon.inMemory.define ⟨{}, ⟨0⟩⟩ "¿Don't... " .verified).lexicon
    AllEdges "« " ∧ AllEdges "»!\u3000" ∧
      Interchangeable ("« " ++ "don't" ++ "»!\u3000") "don't" ∧
      (lexicon.get? "« don't»!\u3000").map Entry.headWord = some "Don't" ∧
      lexicon.contains "dont" = false ∧
      (Checker.mk lexicon {}).needsCorrection "« don't»!\u3000" = false ∧
      Interchangeable ("(" ++ "3:16" ++ ")") "3:16" ∧ isExempt "(3:16)" = true := by
  -- The characters of each text are gone through, not all the characters there are.
  have edges {text : String} (all : text.toList.all isEdge = true) : AllEdges text :=
    List.all_eq_true.mp all
  have before : AllEdges "« " := edges (by decide +kernel)
  have after : AllEdges "»!\u3000" := edges (by decide +kernel)
  have quoted := (edges_never_matter "don't").1 "« " "»!\u3000" before after
  have bracketed := (edges_never_matter "3:16").1 "(" ")" (edges (by decide +kernel))
    (edges (by decide +kernel))
  exact ⟨before, after, quoted, by decide +kernel, by decide +kernel, by decide +kernel, bracketed,
    by decide +kernel⟩

end Word

end Orthography
