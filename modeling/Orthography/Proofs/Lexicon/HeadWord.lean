import Orthography.Proofs.Json.Fraction
import Orthography.Proofs.Lexicon.FileText

/-!
# The head words in a file

What is read from a file depends on the identifiers that are left, and fractions may come out a
little off.  The head words do not: those of a file are the same whatever identifiers are left
(`Entry.exists_ofFile?_of_other`), and a file that was written with some entries has their head words
(`Entry.headWords_of_fileText`), since every number is printed legibly (`Json.Number.legible`).
-/

namespace Orthography.Entry

set_option autoImplicit false

open Json (Form toForm)

variable {room : Nat} {supply after : Supply}

/-! ## Other identifiers -/

/-- With other identifiers left, an entry is read that differs in its identifier at most. -/
theorem exists_ofForm?_of_other {form : Form} {entry : Entry}
    (read : ofForm? room form supply = some (entry, after)) (other : Supply) :
    ∃ id last, ofForm? room form other = some ({ entry with id := id }, last) := by
  unfold ofForm? at read ⊢
  obtain ⟨members, found, read⟩ := Option.bind_eq_some_iff.mp read
  simp only [found, Option.bind_eq_bind, Option.bind_some]
  split at read
  · -- With an identifier or without one, the other members are read in the same way.
    split at read
    all_goals
      simp only [Option.bind_eq_bind, Option.bind_eq_some_iff, Option.map_eq_some_iff,
        Option.pure_def, Option.some.injEq, Prod.mk.injEq] at read
      obtain ⟨_, drawn, form, head, headWord, word, level, levels, definition, definitions,
        equivalents, texts, links, ids, linked, others, metadata, free, notes, lines, extra, more,
        rfl, -⟩ := read
    · obtain ⟨id, identified, rfl⟩ := drawn
      simp only [identified, head, word, levels, definitions, texts, ids, others, free, lines, more,
        Option.map_some, Option.bind_some]
      exact ⟨_, _, rfl⟩
    · simp only [head, word, levels, definitions, texts, ids, others, free, lines, more,
        Option.bind_some]
      exact ⟨_, _, rfl⟩
  · cases read

/-- With other identifiers left, entries with the same head words are read. -/
theorem exists_ofForms?_of_other {forms : List Form} {entries : List Entry}
    (read : ofForms? room forms supply = some (entries, after)) (other : Supply) :
    ∃ twins last, ofForms? room forms other = some (twins, last) ∧
      twins.map headWord = entries.map headWord := by
  induction forms generalizing supply entries other with
  | nil =>
    cases read
    exact ⟨[], other, rfl, rfl⟩
  | cons form rest ih =>
    rw [ofForms?] at read
    obtain ⟨⟨first, next⟩, head, read⟩ := Option.bind_eq_some_iff.mp read
    obtain ⟨⟨others, last⟩, tail, read⟩ := Option.bind_eq_some_iff.mp read
    cases read
    obtain ⟨id, between, twin⟩ := exists_ofForm?_of_other head other
    obtain ⟨twins, final, twinsRead, same⟩ := ih tail between
    refine ⟨{ first with id := id } :: twins, final, ?_, by rw [List.map_cons, same]; rfl⟩
    rw [ofForms?, twin]
    simp only [Option.bind_eq_bind, Option.bind_some, twinsRead, Option.pure_def]

/-- **The head words in a file do not depend on the identifiers that are left**, nor does it whether
the file can be read. -/
theorem exists_ofFile?_of_other {bytes : ByteArray} {entries : List Entry}
    (read : ofFile? bytes supply = some (entries, after)) (other : Supply) :
    ∃ twins last, ofFile? bytes other = some (twins, last) ∧
      twins.map headWord = entries.map headWord := by
  rw [ofFile?_eq_bind] at read ⊢
  obtain ⟨forms, found, read⟩ := Option.bind_eq_some_iff.mp read
  rw [found, Option.bind_some]
  exact exists_ofForms?_of_other read other

/-! ## Files that were written -/

/-- The form of an entry gives its head word, whatever becomes of its numbers. -/
theorem headWord_of_ofForm?_json {entry read : Entry}
    (found : ofForm? (Json.depthLimit - 2) (toForm entry.json) supply = some (read, after)) :
    read.headWord = entry.headWord := by
  rw [ofForm?, members?_json] at found
  simp only [Option.bind_eq_bind, Option.bind_some, identifier?_toForm, Option.map_some,
    string?_toForm, Option.bind_eq_some_iff, Option.pure_def, Option.some.injEq,
    Prod.mk.injEq] at found
  obtain ⟨_, _, _, _, _, _, _, _, _, _, _, _, _, _, _, _, rfl, _⟩ := found
  rfl

/-- The forms of entries give their head words. -/
theorem headWords_of_ofForms?_json {entries read : List Entry}
    (found : ofForms? (Json.depthLimit - 2) (entries.map fun entry => toForm entry.json) supply =
      some (read, after)) : read.map headWord = entries.map headWord := by
  induction entries generalizing supply read with
  | nil =>
    cases found
    rfl
  | cons entry rest ih =>
    rw [List.map_cons, ofForms?] at found
    obtain ⟨⟨first, next⟩, head, found⟩ := Option.bind_eq_some_iff.mp found
    obtain ⟨⟨others, last⟩, tail, found⟩ := Option.bind_eq_some_iff.mp found
    cases found
    rw [List.map_cons, List.map_cons, headWord_of_ofForm?_json head, ih tail]

/-- **A file that was written has the head words of its entries.** -/
theorem headWords_of_fileText {entries read : List Entry}
    (found : ofFile? (fileText entries).toUTF8 supply = some (read, after)) :
    read.map headWord = entries.map headWord := by
  rw [ofFile?_fileText_eq fun _ _ n _ => n.legible] at found
  exact headWords_of_ofForms?_json found

end Orthography.Entry
