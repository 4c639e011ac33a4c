import Orthography.Proofs.Lexicon.HeadWord
import Orthography.Proofs.Lexicon.Reload

/-!
# Nothing is loaded that was not there

When nobody else writes to the files of a lexicon, loading its directory again gives no word that the
lexicon does not have (`Store.contains_of_load`).  This holds whichever writes are refused, also when
a failed removal could not put a file back; whether entries carry identifiers; and whatever becomes
of fractions on the way.  If the fractions of the lexicon read back, its directory can be loaded
(`Store.exists_load`).

**Invariant.**  Whatever is read from a file on the disk, its keys are among those of the entries
that the file has in memory (`Store.Covered`).  A call may leave fewer entries on the disk than in
memory, but never others: a file that could not be put back lacks the entries with one key.
-/

namespace Orthography

set_option autoImplicit false

open Lexicon (Call Backed Filed directory prepare load readFiles)

/-! ## Files -/

/-- Every key that is read from some bytes is that of some entry, and something is read from them if
the fractions of the entries read back. -/
structure Covers (entries : List Entry) (bytes : ByteArray) : Prop where
  keys : ∀ supply read after, Entry.ofFile? bytes supply = some (read, after) →
    ∀ entry ∈ read, ∃ held ∈ entries, held.key = entry.key
  reads : (∀ entry ∈ entries, entry.FractionsReadBack) →
    ∀ supply, (Entry.ofFile? bytes supply).isSome = true

/-- Entries with the same head words have the same keys. -/
theorem exists_key_of_headWords {entries read : List Entry}
    (same : read.map Entry.headWord = entries.map Entry.headWord) :
    ∀ entry ∈ read, ∃ held ∈ entries, held.key = entry.key := by
  intro entry member
  have word : entry.headWord ∈ entries.map Entry.headWord :=
    same ▸ List.mem_map_of_mem member
  obtain ⟨held, inside, equal⟩ := List.mem_map.mp word
  exact ⟨held, inside, by rw [Entry.key, Entry.key, equal]⟩

/-- Bytes are covered by what was read from them once. -/
theorem covers_of_ofFile? {bytes : ByteArray} {supply after : Supply} {entries : List Entry}
    (first : Entry.ofFile? bytes supply = some (entries, after)) : Covers entries bytes := by
  refine ⟨fun other read last found => ?_, fun _ other => ?_⟩
  · obtain ⟨twins, _, again, same⟩ := Entry.exists_ofFile?_of_other first other
    rw [again] at found
    cases found
    exact exists_key_of_headWords same
  · obtain ⟨twins, last, again, -⟩ := Entry.exists_ofFile?_of_other first other
    rw [again]
    rfl

/-- What was written is covered by the entries that it was written for, and by more. -/
theorem covers_fileText {written entries : List Entry}
    (readable : ∀ entry ∈ written, entry.Readable) (kept : ∀ entry ∈ written, entry ∈ entries) :
    Covers entries (Entry.fileText written).toUTF8 := by
  refine ⟨fun supply read after found entry member => ?_, fun back supply => ?_⟩
  · obtain ⟨held, inside, same⟩ :=
      exists_key_of_headWords (Entry.headWords_of_fileText found) entry member
    exact ⟨held, kept held inside, same⟩
  · rw [Entry.ofFile?_fileText readable fun entry member => back entry (kept entry member)]
    rfl

/-- What stands for a file on the disk is covered by its entries. -/
def BackingFile.CoversOn (file : BackingFile) (disk : Disk) : Prop :=
  ∃ bytes, disk.at? file.path = some (.file bytes) ∧ Covers file.entries bytes

/-- A file that has not changed is covered as before. -/
theorem BackingFile.CoversOn.congr {file : BackingFile} {disk after : Disk}
    (covers : file.CoversOn disk) (same : after.at? file.path = disk.at? file.path) :
    file.CoversOn after := by
  obtain ⟨bytes, here, entries⟩ := covers
  exact ⟨bytes, same.trans here, entries⟩

/-- Files of which something is read are read, whatever identifiers are left. -/
theorem exists_readFiles {disk : Disk} {files : List BackingFile}
    (covers : ∀ file ∈ files, file.CoversOn disk)
    (back : ∀ file ∈ files, ∀ entry ∈ file.entries, entry.FractionsReadBack) (supply : Supply) :
    ∃ read after, readFiles disk supply (files.map BackingFile.path) = .ok (read, after) := by
  induction files generalizing supply with
  | nil => exact ⟨[], supply, rfl⟩
  | cons file rest ih =>
    obtain ⟨bytes, here, first⟩ := covers file List.mem_cons_self
    obtain ⟨⟨entries, next⟩, decoded⟩ := Option.isSome_iff_exists.mp
      (first.reads (back file List.mem_cons_self) supply)
    obtain ⟨read, after, others⟩ := ih (fun other member => covers other (.tail _ member))
      (fun other member => back other (.tail _ member)) next
    refine ⟨⟨file.path, entries⟩ :: read, after, ?_⟩
    rw [List.map_cons, readFiles, Disk.read?_eq_of_at? here]
    simp only [Option.bind_some, decoded, others]

namespace Store

/-! ## The invariant -/

/-- Everything on the disk is covered by what is in memory. -/
structure Covered (store : Store) : Prop where
  backed : Backed store.lexicon
  filed : Filed store.lexicon
  covers : ∀ file ∈ store.lexicon.files, file.CoversOn store.world.disk

theorem Covered.areFiles {store : Store} (covered : Covered store) :
    ∀ file ∈ store.lexicon.files, (store.world.disk.read? file.path).isSome = true := by
  intro file member
  obtain ⟨bytes, here, -⟩ := covered.covers file member
  rw [Disk.read?_eq_of_at? here]
  rfl

/-- Loading establishes the invariant. -/
theorem covered_of_load {world after : World} {dataDirectory : String} {language : Option String}
    {base : Lexicon} (loaded : load world dataDirectory language = (.ok base, after)) :
    Covered ⟨base, after⟩ := by
  refine ⟨Lexicon.backed_of_load loaded, Lexicon.filed_of_load loaded, ?_⟩
  obtain ⟨paths, files, -, read, -, rfl⟩ := Lexicon.files_of_load loaded
  intro file member
  rw [Lexicon.files_foldl_attach] at member
  obtain ⟨bytes, before, next, here, decoded⟩ := Lexicon.exists_bytes_of_readFiles read file member
  exact ⟨bytes, Disk.at?_eq_of_read? here, covers_of_ofFile? decoded⟩

/-- **Every call keeps the invariant**, also one that fails and cannot put everything back. -/
theorem Covered.perform {store : Store} (covered : Covered store) (call : Call) :
    Covered (store.perform call) := by
  have backed := covered.backed.perform store.world call
  have filed := covered.filed.perform store.world call
  rw [← lexicon_perform] at backed filed
  refine ⟨backed, filed, fun file member => ?_⟩
  have readable := filed.readable file member
  cases standing_perform covered.filed call file member with
  | kept known same => exact (covered.covers file known).congr same
  | written here => exact ⟨file.bytes, here, covers_fileText readable fun _ inside => inside⟩
  | @lost known reported key here =>
    refine ⟨(file.without key).bytes, here, covers_fileText ?_ ?_⟩
    · exact fun entry inside => readable entry (List.mem_filter.mp inside).1
    · exact fun entry inside => (List.mem_filter.mp inside).1

/-- Every sequence of calls keeps the invariant, the shape of the disk and the paths. -/
theorem Covered.afterCalls {store : Store} (covered : Covered store) (calls : List Call) :
    Covered (store.afterCalls calls) ∧
      Disk.SameShape (store.afterCalls calls).world.disk store.world.disk ∧
      (store.afterCalls calls).lexicon.paths = store.lexicon.paths := by
  induction calls generalizing store with
  | nil => exact ⟨covered, .refl _, rfl⟩
  | cons call rest ih =>
    obtain ⟨last, shape, paths⟩ := ih (covered.perform call)
    refine ⟨last, shape.trans (sameShape_perform covered.areFiles call), ?_⟩
    rw [Store.afterCalls, paths, lexicon_perform, Lexicon.paths_perform]

end Store

/-! ## Loading again -/

namespace Lexicon

/-- A lexicon in files has a word exactly if some entry in its files has the key of the word. -/
theorem Backed.contains_iff {lexicon : Lexicon} (backed : Backed lexicon) (word : String) :
    lexicon.contains word = true ↔
      Word.key word ≠ "" ∧ ∃ file ∈ lexicon.files, ∃ entry ∈ file.entries,
        entry.key = Word.key word := by
  rw [contains, KeyMap.contains_eq_isSome, backed.index_eq, get?_union]
  by_cases blank : Word.key word = ""
  · simp [blank]
  · simp [blank, allEntries, List.find?_isSome]

/-- On every disk of the shape that loading left, the paths of the lexicon are listed again. -/
theorem prepare_of_load {world after : World} {dataDirectory : String} {language : Option String}
    {base : Lexicon} (loaded : load world dataDirectory language = (.ok base, after))
    {other : Disk} (same : Disk.SameShape other after.disk) :
    prepare other (directory dataDirectory language) = (.ok base.paths, other) := by
  obtain ⟨listed, files, prepared, read, -, rfl⟩ := files_of_load loaded
  have paths : (files.foldl attach inMemory).paths = listed := by
    rw [Lexicon.paths, files_foldl_attach]
    exact paths_of_readFiles read
  rw [paths]
  exact prepare_of_prepared prepared same

end Lexicon

namespace Store

variable {world after : World} {dataDirectory : String} {language : Option String}
  {base : Lexicon} (loaded : load world dataDirectory language = (.ok base, after))
  (calls : List Call) (refusals : List Bool) (supply : Supply)

include loaded

/-- The directory is listed again after any calls, and the files are covered. -/
theorem covered_again :
    let now := (Store.mk base after).afterCalls calls
    let disk := { now.world.disk with refusals := refusals }
    Covered now ∧
      prepare disk (directory dataDirectory language) = (.ok now.lexicon.paths, disk) ∧
      ∀ file ∈ now.lexicon.files, file.CoversOn disk := by
  intro now disk
  obtain ⟨covered, shape, paths⟩ := (covered_of_load loaded).afterCalls calls
  have same : Disk.SameShape disk now.world.disk := ⟨⟨rfl, fun _ => rfl⟩, fun _ => rfl⟩
  refine ⟨covered, ?_, fun file member => ?_⟩
  · have ready := Lexicon.prepare_of_load loaded (same.trans shape)
    rwa [← paths] at ready
  · exact (covered.covers file member).congr (Disk.at?_withRefusals _ _ _)

/-- **Nothing is loaded that was not there.**  When a directory is loaded again after any calls, a
word that is found then is in the lexicon. -/
theorem contains_of_load {twin : Lexicon} {last : World} {word : String} :
    let now := (Store.mk base after).afterCalls calls
    let again : World := ⟨{ now.world.disk with refusals := refusals }, supply⟩
    load again dataDirectory language = (.ok twin, last) → twin.contains word = true →
      now.lexicon.contains word = true := by
  intro now again reloaded found
  obtain ⟨covered, ready, covers⟩ := covered_again loaded calls refusals
  obtain ⟨filled, file, member, entry, inside, key⟩ :=
    ((Lexicon.backed_of_load reloaded).contains_iff word).mp found
  obtain ⟨listed, files, prepared, read, -, rfl⟩ := Lexicon.files_of_load reloaded
  obtain ⟨same, unchanged⟩ := Prod.mk.inj (ready.symm.trans prepared)
  rw [Lexicon.files_foldl_attach] at member
  obtain ⟨bytes, before, next, here, decoded⟩ :=
    Lexicon.exists_bytes_of_readFiles read file member
  -- The file in memory with the same path covers what is read.
  have path : file.path ∈ now.lexicon.paths := by
    rw [Except.ok.inj same, ← Lexicon.paths_of_readFiles read]
    exact List.mem_map_of_mem member
  obtain ⟨held, known, samePath⟩ := List.mem_map.mp path
  obtain ⟨stored, there, entries⟩ := covers held known
  rw [samePath, unchanged, Disk.at?_eq_of_read? here] at there
  cases there
  obtain ⟨other, holds, equal⟩ := entries.keys before file.entries next decoded entry inside
  exact (covered.backed.contains_iff word).mpr
    ⟨filled, held, known, other, holds, equal.trans key⟩

/-- If its fractions read back, a lexicon can be loaded again after any calls. -/
theorem exists_load :
    let now := (Store.mk base after).afterCalls calls
    let again : World := ⟨{ now.world.disk with refusals := refusals }, supply⟩
    (∀ file ∈ now.lexicon.files, ∀ entry ∈ file.entries, entry.FractionsReadBack) →
      ∃ twin last, load again dataDirectory language = (.ok twin, last) := by
  intro now again back
  obtain ⟨covered, ready, covers⟩ := covered_again loaded calls refusals
  obtain ⟨read, last, reads⟩ := exists_readFiles covers back supply
  change readFiles again.disk again.supply now.lexicon.paths = .ok (read, last) at reads
  refine ⟨read.foldl Lexicon.attach Lexicon.inMemory, ⟨again.disk, last⟩, ?_⟩
  change prepare again.disk _ = (.ok now.lexicon.paths, again.disk) at ready
  rw [load]
  simp only [ready, reads]

end Store

end Orthography
