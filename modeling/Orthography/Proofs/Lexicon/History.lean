import Orthography.Proofs.Lexicon.Listing
import Orthography.Proofs.Lexicon.Outcome

/-!
# Lexicons in files over time

A lexicon that was loaded from files is changed by a sequence of calls, each of which adds or takes
out a word (`Lexicon.Call`, `Lexicon.afterCalls`).  What else happens to the files between two calls
is left open: every call comes with the world that it is made in, and in particular with the writes
that are refused in it.

**Invariant.**  The index is the union of the files, and the primary file is the default file if
there is one and the first file otherwise (`Lexicon.Backed`).  Loading establishes this
(`Lexicon.backed_of_load`), and every call keeps it, whether it succeeds or fails
(`Lexicon.Backed.perform`).  So it holds after every sequence of calls
(`Lexicon.firstWins_afterCalls`).
-/

namespace Orthography

set_option autoImplicit false

namespace Lexicon

/-! ## Calls -/

/-- A call that changes a lexicon. -/
inductive Call where
  | define (word : String) (level : Level)
  | remove (word : String)

/-- The lexicon after a call in some world. -/
def perform (lexicon : Lexicon) (world : World) : Call → Lexicon
  | .define word level => (lexicon.define world word level).lexicon
  | .remove word => (lexicon.remove world word).lexicon

/-- The lexicon after some calls, each in a world of its own. -/
def afterCalls (lexicon : Lexicon) : List (World × Call) → Lexicon
  | [] => lexicon
  | (world, call) :: rest => (lexicon.perform world call).afterCalls rest

/-! ## The invariant -/

/-- A position among some paths is that of the default file if one of them is the default file, and
that of the first path otherwise. -/
def IsPrimary (paths : List String) (position : Nat) : Prop :=
  ∃ path, paths[position]? = some path ∧
    if ∃ other ∈ paths, (Path.names other).getLast? = some BackingFile.defaultName then
      (Path.names path).getLast? = some BackingFile.defaultName
    else position = 0

/-- The index is the union of the files, and new words go to the right one of them. -/
structure Backed (lexicon : Lexicon) : Prop where
  index_eq : lexicon.index = union lexicon.files
  primary : ∃ position, lexicon.primary = some position ∧ IsPrimary lexicon.paths position

/-- What is known while files are attached: as long as there are none, there is no primary one. -/
structure Attached (lexicon : Lexicon) : Prop where
  index_eq : lexicon.index = union lexicon.files
  primary :
    (lexicon.files = [] ∧ lexicon.primary = none) ∨
      ∃ position, lexicon.primary = some position ∧ IsPrimary lexicon.paths position

/-! ## Loading -/

theorem isDefault_iff {file : BackingFile} :
    file.isDefault = true ↔ (Path.names file.path).getLast? = some BackingFile.defaultName := by
  simp [BackingFile.isDefault]

/-- The default file becomes the primary one. -/
theorem isPrimary_concat_of_default {paths : List String} {path : String}
    (default : (Path.names path).getLast? = some BackingFile.defaultName) :
    IsPrimary (paths ++ [path]) paths.length := by
  refine ⟨path, by simp, ?_⟩
  rw [if_pos ⟨path, by simp, default⟩]
  exact default

/-- Another file leaves the primary one as it is. -/
theorem IsPrimary.concat {paths : List String} {path : String} {position : Nat}
    (primary : IsPrimary paths position)
    (other : (Path.names path).getLast? ≠ some BackingFile.defaultName) :
    IsPrimary (paths ++ [path]) position := by
  obtain ⟨chosen, here, choice⟩ := primary
  have inside : position < paths.length := (List.getElem?_eq_some_iff.mp here).1
  refine ⟨chosen, by rw [List.getElem?_append_left inside, here], ?_⟩
  have same : (∃ known ∈ paths ++ [path],
      (Path.names known).getLast? = some BackingFile.defaultName) ↔
        ∃ known ∈ paths, (Path.names known).getLast? = some BackingFile.defaultName := by
    constructor
    · rintro ⟨known, member, default⟩
      rcases List.mem_append.mp member with member | member
      · exact ⟨known, member, default⟩
      · rw [List.mem_singleton.mp member] at default
        exact absurd default other
    · rintro ⟨known, member, default⟩
      exact ⟨known, List.mem_append_left _ member, default⟩
  simpa only [same] using choice

/-- Attaching a file adds its entries to the union and gives the lexicon a primary file. -/
theorem Attached.attach {lexicon : Lexicon} (attached : Attached lexicon) (file : BackingFile) :
    Attached (lexicon.attach file) ∧ (lexicon.attach file).files ≠ [] := by
  refine ⟨⟨?_, .inr ?_⟩, by simp [Lexicon.attach]⟩
  · show addEntries lexicon.index file.entries = union (lexicon.files ++ [file])
    rw [attached.index_eq, union, union, List.flatMap_append, addEntries, addEntries, addEntries,
      List.foldl_append]
    simp
  · have paths : (lexicon.attach file).paths = lexicon.paths ++ [file.path] := by
      simp [Lexicon.attach, Lexicon.paths]
    have length : lexicon.paths.length = lexicon.files.length := by simp [Lexicon.paths]
    rw [paths]
    by_cases default : file.isDefault = true
    · refine ⟨lexicon.files.length, by simp [Lexicon.attach, default], ?_⟩
      rw [← length]
      exact isPrimary_concat_of_default (isDefault_iff.mp default)
    · rcases attached.primary with ⟨none, unset⟩ | ⟨position, chosen, primary⟩
      · refine ⟨0, by simp [Lexicon.attach, unset, none], file.path, by simp [Lexicon.paths, none],
          ?_⟩
        rw [if_neg]
        rintro ⟨other, member, isDefault⟩
        simp only [Lexicon.paths, none, List.map_nil, List.nil_append, List.mem_singleton] at member
        rw [member] at isDefault
        exact default (isDefault_iff.mpr isDefault)
      · refine ⟨position, by simp [Lexicon.attach, chosen, default], ?_⟩
        exact primary.concat fun isDefault => default (isDefault_iff.mpr isDefault)

/-- Attaching files, one after the other, puts them behind those that were there. -/
theorem files_foldl_attach (files : List BackingFile) (lexicon : Lexicon) :
    (files.foldl attach lexicon).files = lexicon.files ++ files := by
  induction files generalizing lexicon with
  | nil => simp
  | cons file rest ih => rw [List.foldl_cons, ih]; simp [attach]

/-- Attaching files, one after the other, gives an attached lexicon. -/
theorem Attached.foldl_attach (files : List BackingFile) {lexicon : Lexicon}
    (attached : Attached lexicon) : Attached (files.foldl Lexicon.attach lexicon) := by
  induction files generalizing lexicon with
  | nil => exact attached
  | cons file rest ih => exact ih (attached.attach file).1

/-- Files that are read have the paths that they are read from. -/
theorem paths_of_readFiles {disk : Disk} {supply after : Supply} {paths : List String}
    {files : List BackingFile} (read : readFiles disk supply paths = .ok (files, after)) :
    files.map BackingFile.path = paths := by
  induction paths generalizing supply files with
  | nil =>
    cases read
    rfl
  | cons path rest ih =>
    rw [readFiles] at read
    split at read
    · cases read
    · next entries next _ =>
      split at read
      · next others last others_eq =>
        cases read
        rw [List.map_cons, ih others_eq]
      · cases read

/-- A lexicon that was loaded is made of files that were read, at least one. -/
theorem files_of_load {world after : World} {dataDirectory : String} {language : Option String}
    {lexicon : Lexicon} (loaded : load world dataDirectory language = (.ok lexicon, after)) :
    ∃ paths files,
      prepare world.disk (directory dataDirectory language) = (.ok paths, after.disk) ∧
        readFiles after.disk world.supply paths = .ok (files, after.supply) ∧ files ≠ [] ∧
          lexicon = files.foldl attach inMemory := by
  unfold load at loaded
  split at loaded
  · cases loaded
  · next paths disk prepared =>
    split at loaded
    · cases loaded
    · next files supply read =>
      cases loaded
      refine ⟨paths, files, prepared, read, ?_, rfl⟩
      rintro rfl
      exact paths_ne_nil_of_prepare prepared (paths_of_readFiles read).symm

/-- Loading establishes the invariant. -/
theorem backed_of_load {world after : World} {dataDirectory : String} {language : Option String}
    {lexicon : Lexicon} (loaded : load world dataDirectory language = (.ok lexicon, after)) :
    Backed lexicon := by
  obtain ⟨_, files, _, _, some, rfl⟩ := files_of_load loaded
  have empty : Attached inMemory := ⟨rfl, .inl ⟨rfl, rfl⟩⟩
  have attached := empty.foldl_attach files
  refine ⟨attached.index_eq, ?_⟩
  rcases attached.primary with ⟨none, _⟩ | primary
  · rw [files_foldl_attach] at none
    exact absurd none some
  · exact primary

/-- A lexicon that is loaded without a failure. -/
theorem exists_load_eq {world : World} {dataDirectory : String} {language : Option String}
    (succeeds : (load world dataDirectory language).1.isOk = true) :
    ∃ lexicon after, load world dataDirectory language = (.ok lexicon, after) := by
  generalize load world dataDirectory language = run at succeeds
  obtain ⟨result, after⟩ := run
  cases result with
  | error failure => cases succeeds
  | ok lexicon => exact ⟨lexicon, after, rfl⟩

/-! ## Calls keep the invariant -/

/-- A lexicon in files has a primary file. -/
theorem Backed.primaryFile?_ne_none {lexicon : Lexicon} (backed : Backed lexicon) :
    lexicon.primaryFile? ≠ none := by
  obtain ⟨position, chosen, path, here, _⟩ := backed.primary
  rw [paths, List.getElem?_map, Option.map_eq_some_iff] at here
  obtain ⟨file, held, _⟩ := here
  simp [primaryFile?, chosen, held]

/-- Replacing a file by one at the same path changes no path. -/
theorem map_path_set {files : List BackingFile} {position : Nat} {file other : BackingFile}
    (here : files[position]? = some file) (same : other.path = file.path) :
    (files.set position other).map BackingFile.path = files.map BackingFile.path := by
  obtain ⟨before, after, split, replaced⟩ := exists_split here
  rw [replaced, split]
  simp [same]

/-- No call changes the paths of the files. -/
theorem paths_perform (lexicon : Lexicon) (world : World) (call : Call) :
    (lexicon.perform world call).paths = lexicon.paths := by
  cases call with
  | define word level =>
    have outcome := defined lexicon world word level
    rw [perform]
    generalize lexicon.define world word level = change at outcome ⊢
    cases outcome with
    | known => rfl
    | inMemory => rfl
    | saved _ _ primary => exact map_path_set (getElem?_of_primaryFile? primary).2 rfl
    | failed => rfl
  | remove word =>
    have outcome := removed lexicon world word
    rw [perform]
    generalize lexicon.remove world word = change at outcome ⊢
    cases outcome with
    | unknown => rfl
    | done =>
      show (lexicon.files.map (BackingFile.without · (Word.key word))).map BackingFile.path = _
      rw [List.map_map]
      rfl
    | failed => rfl

/-- No call changes which file is the primary one. -/
theorem primary_perform (lexicon : Lexicon) (world : World) (call : Call) :
    (lexicon.perform world call).primary = lexicon.primary := by
  cases call with
  | define word level =>
    have outcome := defined lexicon world word level
    rw [perform]
    generalize lexicon.define world word level = change at outcome ⊢
    cases outcome <;> rfl
  | remove word =>
    have outcome := removed lexicon world word
    rw [perform]
    generalize lexicon.remove world word = change at outcome ⊢
    cases outcome <;> rfl

/-- An entry of a file after a call was in some file before it or is new for a word. -/
theorem mem_entries_perform {lexicon : Lexicon} {world : World} {call : Call} {file : BackingFile}
    (here : file ∈ (lexicon.perform world call).files) {entry : Entry}
    (member : entry ∈ file.entries) :
    (∃ old ∈ lexicon.files, entry ∈ old.entries) ∨
      ∃ word level id, entry = Entry.ofWord word level id := by
  cases call with
  | define word level =>
    have outcome := defined lexicon world word level
    rw [perform] at here
    generalize lexicon.define world word level = change at outcome here
    cases outcome with
    | known => exact .inl ⟨file, here, member⟩
    | inMemory => exact .inl ⟨file, here, member⟩
    | failed => exact .inl ⟨file, here, member⟩
    | @saved position primary disk _ _ chosen =>
      rcases List.mem_or_eq_of_mem_set here with old | rfl
      · exact .inl ⟨file, old, member⟩
      · rcases List.mem_append.mp member with old | new
        · exact .inl ⟨primary, List.mem_of_getElem? (getElem?_of_primaryFile? chosen).2, old⟩
        · exact .inr ⟨word, level, _, List.mem_singleton.mp new⟩
  | remove word =>
    have outcome := removed lexicon world word
    rw [perform] at here
    generalize lexicon.remove world word = change at outcome here
    cases outcome with
    | unknown => exact .inl ⟨file, here, member⟩
    | failed => exact .inl ⟨file, here, member⟩
    | done =>
      obtain ⟨old, known, rfl⟩ := List.mem_map.mp here
      exact .inl ⟨old, known, (List.mem_filter.mp member).1⟩

/-- Every call leaves the index equal to the union of the files. -/
theorem Backed.index_perform {lexicon : Lexicon} (backed : Backed lexicon) (world : World)
    (call : Call) :
    (lexicon.perform world call).index = union (lexicon.perform world call).files := by
  cases call with
  | define word level =>
    have outcome := defined lexicon world word level
    rw [perform]
    generalize lexicon.define world word level = change at outcome ⊢
    cases outcome with
    | known => exact backed.index_eq
    | inMemory _ _ unbacked => exact absurd unbacked backed.primaryFile?_ne_none
    | saved filled absent primary written =>
      -- The new entry has the key of the word.
      have key := Entry.key_ofWord word level world.supply.draw.1
      rw [backed.index_eq, ← key] at absent
      rw [← key] at filled
      show lexicon.index.insert (Word.key word) _ = _
      rw [backed.index_eq, ← key,
        union_set_append (getElem?_of_primaryFile? primary).2 filled absent]
    | failed => exact backed.index_eq
  | remove word =>
    have outcome := removed lexicon world word
    rw [perform]
    generalize lexicon.remove world word = change at outcome ⊢
    cases outcome with
    | unknown => exact backed.index_eq
    | done =>
      show lexicon.index.erase (Word.key word) = _
      rw [backed.index_eq, union_map_without]
    | failed => exact backed.index_eq

/-- Every call keeps the invariant. -/
theorem Backed.perform {lexicon : Lexicon} (backed : Backed lexicon) (world : World)
    (call : Call) : Backed (lexicon.perform world call) := by
  refine ⟨backed.index_perform world call, ?_⟩
  rw [primary_perform, paths_perform]
  exact backed.primary

/-- Every sequence of calls keeps the invariant, the paths and the choice of the primary file. -/
theorem Backed.afterCalls {lexicon : Lexicon} (backed : Backed lexicon)
    (calls : List (World × Call)) :
    Backed (lexicon.afterCalls calls) ∧ (lexicon.afterCalls calls).paths = lexicon.paths ∧
      (lexicon.afterCalls calls).primary = lexicon.primary := by
  induction calls generalizing lexicon with
  | nil => exact ⟨backed, rfl, rfl⟩
  | cons step rest ih =>
    obtain ⟨world, call⟩ := step
    obtain ⟨after, paths, primary⟩ := ih (backed.perform world call)
    refine ⟨after, ?_, ?_⟩
    · rw [Lexicon.afterCalls, paths, paths_perform]
    · rw [Lexicon.afterCalls, primary, primary_perform]

/-- **The first entry wins, at all times.**  After every sequence of calls on a lexicon that was
loaded, each of them in any world and with any writes refused:

* the index is the union of the files, so that under every key but the empty one it has the first
  entry with this key in the order of the files and of their entries, and nothing under that one;
* no key of the index is empty, and each is the key of the head word of its entry;
* the primary file is the default file if there is one and the first file otherwise;
* the paths of the files and the choice of the primary file are those after loading. -/
theorem firstWins_afterCalls {world after : World} {dataDirectory : String}
    {language : Option String} {lexicon : Lexicon}
    (loaded : load world dataDirectory language = (.ok lexicon, after))
    (calls : List (World × Call)) :
    let now := lexicon.afterCalls calls
    (now.index = union now.files ∧
      ∀ key, now.index.get? key =
        if key = "" then none
        else (now.files.flatMap BackingFile.entries).find? fun entry => entry.key = key) ∧
    (∀ pair ∈ now.index.pairs, pair.1 ≠ "" ∧ pair.1 = Word.key pair.2.headWord) ∧
    (∃ position, now.primary = some position ∧ IsPrimary now.paths position) ∧
    now.paths = lexicon.paths ∧ now.primary = lexicon.primary := by
  intro now
  obtain ⟨backed, paths, primary⟩ := (backed_of_load loaded).afterCalls calls
  refine ⟨⟨backed.index_eq, fun key => ?_⟩, ?_, backed.primary, paths, primary⟩
  · rw [backed.index_eq]
    exact get?_union _ key
  · rintro ⟨key, entry⟩ member
    rw [KeyMap.mem_pairs_iff, backed.index_eq] at member
    obtain ⟨filled, same⟩ := key_of_get?_union member
    exact ⟨filled, same.symm⟩

/-- The bytes of a file whose entries have nothing but a head word. -/
def headWordBytes (words : List String) : ByteArray :=
  (Json.object
    [("entries", .array (words.map fun word => .object [("headWord", .string word)]))]).compact.toUTF8

/-- A directory with two files that have a word in common and one entry that is all punctuation. -/
def twoFiles : Disk :=
  { nodes :=
      [(["words"], .directory),
        (["words", "a.dictionary"], .file (headWordBytes ["Grace", "?!"])),
        (["words", "b.dictionary"], .file (headWordBytes ["grace!"]))] }

/-- A word is added, and then a removal fails because the second of its files cannot be written. -/
theorem firstWins_afterCalls_twoFiles :
    ∃ lexicon after, load ⟨twoFiles, ⟨0⟩⟩ "words" none = (.ok lexicon, after) ∧
      let now := lexicon.afterCalls
        [(after, .define "Glory" .verified),
          (⟨{ twoFiles with refusals := [false, true] }, ⟨8⟩⟩, .remove "GRACE")]
      now.index = union now.files ∧ now.paths = lexicon.paths := by
  have readable : (load ⟨twoFiles, ⟨0⟩⟩ "words" none).1.isOk = true := by decide +kernel
  obtain ⟨lexicon, after, loaded⟩ := exists_load_eq readable
  have holds := firstWins_afterCalls loaded
    [(after, .define "Glory" .verified),
      (⟨{ twoFiles with refusals := [false, true] }, ⟨8⟩⟩, .remove "GRACE")]
  exact ⟨lexicon, after, loaded, holds.1.1, holds.2.2.2.1⟩

end Lexicon

end Orthography
