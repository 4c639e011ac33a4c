import Orthography.Lexicon.Archive
import Orthography.Proofs.KeyMap

/-!
# The union of files

The union of some files has under each key the first entry with this key, in the order of the files
and then of the entries in a file, and nothing under the empty key (`Lexicon.get?_union`).

Two changes of the files are followed in their union: an entry with a new key at the end of some
file is an insertion (`Lexicon.union_set_append`), and taking all entries with a key out of every
file is a removal (`Lexicon.union_map_without`).
-/

namespace Orthography

set_option autoImplicit false

namespace Lexicon

/-! ## The first entry wins -/

/-- The entries of some files, in the order of the files and then of the entries in a file. -/
def allEntries (files : List BackingFile) : List Entry :=
  files.flatMap BackingFile.entries

theorem allEntries_append (before after : List BackingFile) :
    allEntries (before ++ after) = allEntries before ++ allEntries after :=
  List.flatMap_append

theorem allEntries_cons (file : BackingFile) (rest : List BackingFile) :
    allEntries (file :: rest) = file.entries ++ allEntries rest :=
  List.flatMap_cons

/-- An entry is added where there is none and its key is not empty. -/
theorem get?_addEntry (index : KeyMap Entry) (entry : Entry) (key : String) :
    (addEntry index entry).get? key =
      if key ≠ "" ∧ entry.key = key then some ((index.get? key).getD entry)
      else index.get? key := by
  unfold addEntry
  by_cases blank : entry.key = ""
  · rw [if_pos (by simp [blank]), if_neg (by rintro ⟨some, rfl⟩; exact some blank)]
  · rw [if_neg (by simpa using blank), KeyMap.get?_insertNew]
    by_cases same : key = entry.key
    · subst same
      simp [blank]
    · simp [same, Ne.symm same]

/-- Of several entries with one key the first is added, where there is none. -/
theorem get?_addEntries (index : KeyMap Entry) (entries : List Entry) (key : String) :
    (addEntries index entries).get? key =
      if key = "" then index.get? key
      else (index.get? key).or (entries.find? fun entry => entry.key = key) := by
  induction entries generalizing index with
  | nil => simp [addEntries]
  | cons entry rest ih =>
    rw [addEntries, List.foldl_cons, ← addEntries, ih, get?_addEntry]
    by_cases blank : key = ""
    · simp [blank]
    · by_cases same : entry.key = key
      · cases held : index.get? key <;> simp [blank, same]
      · simp [blank, same]

/-- **The first entry with a key wins.**  The union of some files has under a key the first entry
with it, and nothing under the empty key. -/
theorem get?_union (files : List BackingFile) (key : String) :
    (union files).get? key =
      if key = "" then none else (allEntries files).find? fun entry => entry.key = key := by
  rw [union, get?_addEntries]
  simp [allEntries]

/-- What the union has under a key is an entry of some file, with this key. -/
theorem key_of_get?_union {files : List BackingFile} {key : String} {entry : Entry}
    (found : (union files).get? key = some entry) : key ≠ "" ∧ entry.key = key := by
  rw [get?_union] at found
  split at found
  · cases found
  · next some => exact ⟨some, by simpa using List.find?_some found⟩

/-- A key under which the union has nothing is empty or the key of no entry. -/
theorem key_ne_of_get?_union_eq_none {files : List BackingFile} {key : String}
    (filled : key ≠ "") (absent : (union files).get? key = none) :
    ∀ entry ∈ allEntries files, entry.key ≠ key := by
  rw [get?_union, if_neg filled, List.find?_eq_none] at absent
  intro entry member same
  exact absent entry member (by simpa using same)

/-! ## Changes of the files -/

/-- A file among others, with those before it and those after it. -/
theorem exists_split {files : List BackingFile} {position : Nat} {file : BackingFile}
    (here : files[position]? = some file) :
    ∃ before after, files = before ++ file :: after ∧
      ∀ other, files.set position other = before ++ other :: after := by
  obtain ⟨inside, held⟩ := List.getElem?_eq_some_iff.mp here
  have split : files = files.take position ++ file :: files.drop (position + 1) := by
    rw [← held, List.getElem_cons_drop, List.take_append_drop]
  refine ⟨files.take position, files.drop (position + 1), split, ?_⟩
  intro other
  rw [List.set_eq_take_append_cons_drop, if_pos inside]

/-- An entry with a new key at the end of a file is an insertion into the union. -/
theorem union_set_append {files : List BackingFile} {position : Nat} {file : BackingFile}
    (here : files[position]? = some file) {entry : Entry} (filled : entry.key ≠ "")
    (absent : (union files).get? entry.key = none) :
    union (files.set position (file.append entry)) = (union files).insert entry.key entry := by
  have others := key_ne_of_get?_union_eq_none filled absent
  obtain ⟨before, after, split, replaced⟩ := exists_split here
  have extended : allEntries (files.set position (file.append entry)) =
      allEntries before ++ file.entries ++ entry :: allEntries after := by
    rw [replaced, allEntries_append, allEntries_cons]
    simp [BackingFile.append]
  have whole : allEntries files = allEntries before ++ file.entries ++ allEntries after := by
    rw [split, allEntries_append, allEntries_cons, List.append_assoc]
  apply KeyMap.ext_get?
  intro key
  rw [KeyMap.get?_insert, get?_union, get?_union, extended, whole]
  by_cases same : key = entry.key
  · subst same
    -- Nothing before the new entry has its key.
    have absentBefore : (allEntries before ++ file.entries).find?
        (fun other => other.key = entry.key) = none := by
      rw [List.find?_eq_none]
      intro other member
      have inside : other ∈ allEntries files := by
        rw [whole]
        exact List.mem_append_left _ member
      simpa using others other inside
    rw [List.find?_append, absentBefore]
    simp [filled]
  · rw [List.find?_append, List.find?_cons_of_neg (by simpa using Ne.symm same),
      ← List.find?_append, if_neg same]

/-- Without the entries with a key, nothing is found under this key, and the same as before under
any other. -/
theorem find?_filter_key_ne (entries : List Entry) (key other : String) :
    ((entries.filter fun entry => entry.key ≠ key).find? fun entry => entry.key = other) =
      if other = key then none else entries.find? fun entry => entry.key = other := by
  induction entries with
  | nil => simp
  | cons entry rest ih =>
    by_cases dropped : entry.key = key
    · rw [List.filter_cons_of_neg (by simpa using dropped), ih]
      split
      · rfl
      · next different =>
        rw [List.find?_cons_of_neg (by simpa [dropped] using Ne.symm different)]
    · rw [List.filter_cons_of_pos (by simpa using dropped)]
      by_cases here : entry.key = other
      · rw [List.find?_cons_of_pos (by simpa using here), if_neg (here ▸ dropped),
          List.find?_cons_of_pos (by simpa using here)]
      · rw [List.find?_cons_of_neg (by simpa using here), ih,
          List.find?_cons_of_neg (by simpa using here)]

/-- Taking all entries with a key out of every file is a removal from the union. -/
theorem union_map_without (files : List BackingFile) (key : String) :
    union (files.map (BackingFile.without · key)) = (union files).erase key := by
  have kept : allEntries (files.map (BackingFile.without · key)) =
      (allEntries files).filter fun entry => entry.key ≠ key := by
    simp only [allEntries, List.flatMap_map, List.filter_flatMap]
    rfl
  apply KeyMap.ext_get?
  intro other
  rw [KeyMap.get?_erase, get?_union, get?_union, kept, find?_filter_key_ne]
  split <;> split <;> rfl

end Lexicon

end Orthography
