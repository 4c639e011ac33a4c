import Mathlib.Data.List.Pairwise
import Orthography.Proofs.Lexicon.FileText
import Orthography.Proofs.Lexicon.History

/-!
# Failed changes are undone

A change that fails leaves the lexicon as it was.  On the disk a failed definition changes nothing.
A failed removal has written some files before the one that failed, and has tried to write them
again as they were; each of them holds what it held before the call, unless it could not be written
again (`Lexicon.failed_change_undone`).

The files of a lexicon lie next to each other under different names, so that writing one of them
touches no other (`Lexicon.Filed`).  What was written again reads as the entries from before the
call if all fractions among its free members read back; without this it need not
(`Lexicon.restored_file_reads_differently`).
-/

namespace Orthography

set_option autoImplicit false

namespace Lexicon

/-! ## Files next to each other -/

/-- The files of a lexicon lead to different locations, and their entries can be read from files. -/
structure Filed (lexicon : Lexicon) : Prop where
  apart : lexicon.paths.Pairwise Path.Apart
  readable : ∀ file ∈ lexicon.files, ∀ entry ∈ file.entries, entry.Readable

/-- Files that are read have entries that can be read again. -/
theorem readable_of_readFiles {disk : Disk} {supply after : Supply} {paths : List String}
    {files : List BackingFile} (read : readFiles disk supply paths = .ok (files, after)) :
    ∀ file ∈ files, ∀ entry ∈ file.entries, entry.Readable := by
  induction paths generalizing supply files with
  | nil =>
    cases read
    exact fun _ impossible => nomatch impossible
  | cons path rest ih =>
    rw [readFiles] at read
    split at read
    · cases read
    · next entries next found =>
      split at read
      · next others last others_eq =>
        cases read
        obtain ⟨bytes, _, decoded⟩ := Option.bind_eq_some_iff.mp found
        intro file member
        rcases List.mem_cons.mp member with rfl | later
        · exact Entry.readable_of_ofFile? decoded
        · exact ih others_eq file later
      · cases read

/-- Loading puts files next to each other. -/
theorem filed_of_load {world after : World} {dataDirectory : String} {language : Option String}
    {lexicon : Lexicon} (loaded : load world dataDirectory language = (.ok lexicon, after)) :
    Filed lexicon := by
  obtain ⟨paths, files, prepared, read, _, rfl⟩ := files_of_load loaded
  have whole : (files.foldl attach inMemory).files = files := by
    rw [files_foldl_attach]
    rfl
  refine ⟨?_, ?_⟩
  · rw [Lexicon.paths, whole, paths_of_readFiles read]
    exact apart_of_prepare prepared
  · rw [whole]
    exact readable_of_readFiles read

/-- Every call leaves the files next to each other. -/
theorem Filed.perform {lexicon : Lexicon} (filed : Filed lexicon) (world : World) (call : Call) :
    Filed (lexicon.perform world call) := by
  refine ⟨by rw [paths_perform]; exact filed.apart, ?_⟩
  intro file here entry member
  rcases mem_entries_perform here member with ⟨old, known, inside⟩ | ⟨word, level, id, rfl⟩
  · exact filed.readable old known entry inside
  · exact Entry.readable_ofWord word level id

/-- Every sequence of calls leaves the files next to each other. -/
theorem Filed.afterCalls {lexicon : Lexicon} (filed : Filed lexicon)
    (calls : List (World × Call)) : Filed (lexicon.afterCalls calls) := by
  induction calls generalizing lexicon with
  | nil => exact filed
  | cons step rest ih => exact ih (filed.perform step.1 step.2)

/-! ## Files that are written one after the other -/

/-- Files that lead to different locations on every disk. -/
def AllApart (files : List BackingFile) : Prop :=
  files.Pairwise fun first second => Path.Apart first.path second.path

/-- Writing files changes no directory. -/
theorem SavedAll.sameDirectories {disk after : Disk} {files : List BackingFile}
    (saves : SavedAll disk files after) : Disk.SameDirectories after disk := by
  induction saves with
  | nil => exact ⟨rfl, fun _ => rfl⟩
  | cons written _ ih => exact ih.trans (Disk.sameDirectories_of_write written)

/-- Writing files touches nothing else. -/
theorem SavedAll.at?_of_not_samePlace {disk after : Disk} {files : List BackingFile}
    (saves : SavedAll disk files after) {path : String}
    (away : ∀ file ∈ files, ¬ disk.SamePlace path file.path) :
    after.at? path = disk.at? path := by
  induction saves with
  | nil => rfl
  | @cons disk next after file rest written others ih =>
    have first := away file List.mem_cons_self
    rw [ih, Disk.at?_of_written_of_not_samePlace written first]
    intro other member same
    rw [(Disk.sameDirectories_of_write written).samePlace_iff] at same
    exact away other (List.mem_cons_of_mem _ member) same

/-- Each of the files stands at the end of its path. -/
theorem SavedAll.at?_of_mem {disk after : Disk} {files : List BackingFile}
    (saves : SavedAll disk files after) (apart : AllApart files) {file : BackingFile}
    (member : file ∈ files) : after.at? file.path = some (.file file.bytes) := by
  induction saves with
  | nil => cases member
  | @cons disk next after first rest written others ih =>
    obtain ⟨head, tail⟩ := List.pairwise_cons.mp apart
    rcases List.mem_cons.mp member with rfl | later
    · rw [others.at?_of_not_samePlace fun other inside => head other inside next]
      exact Disk.at?_of_written_of_samePlace written (Disk.samePlace_self_of_written written)
    · exact ih tail later

/-- Writing files again touches nothing else. -/
theorem at?_resave_of_not_samePlace {disk : Disk} {files : List BackingFile} {path : String}
    (away : ∀ file ∈ files, ¬ disk.SamePlace path file.path) :
    (resave disk files).1.at? path = disk.at? path := by
  induction files generalizing disk with
  | nil => rfl
  | cons file rest ih =>
    rw [resave]
    cases outcome : file.save disk with
    | mk success next =>
      have others : (resave next rest).1.at? path = next.at? path := by
        refine ih fun other member same => ?_
        rw [(Disk.sameDirectories_of_write outcome).samePlace_iff] at same
        exact away other (List.mem_cons_of_mem _ member) same
      show (resave next rest).1.at? path = disk.at? path
      rw [others]
      cases success with
      | true => exact Disk.at?_of_written_of_not_samePlace outcome (away file List.mem_cons_self)
      | false => rw [Disk.eq_spend_of_refused outcome, Disk.at?_spend]

/-- Only paths of the files are reported. -/
theorem mem_paths_of_mem_resave {disk : Disk} {files : List BackingFile} {path : String}
    (member : path ∈ (resave disk files).2) : ∃ file ∈ files, file.path = path := by
  induction files generalizing disk with
  | nil => cases member
  | cons file rest ih =>
    rw [resave] at member
    cases outcome : file.save disk with
    | mk success next =>
      rw [outcome] at member
      cases success with
      | true =>
        obtain ⟨other, inside, same⟩ := ih member
        exact ⟨other, List.mem_cons_of_mem _ inside, same⟩
      | false =>
        rcases List.mem_cons.mp member with rfl | later
        · exact ⟨file, List.mem_cons_self, rfl⟩
        · obtain ⟨other, inside, same⟩ := ih later
          exact ⟨other, List.mem_cons_of_mem _ inside, same⟩

/-- Each of the files stands at the end of its path, or is reported and has not changed. -/
theorem at?_resave_of_mem {disk : Disk} {files : List BackingFile} (apart : AllApart files)
    {file : BackingFile} (member : file ∈ files) :
    (file.path ∉ (resave disk files).2 →
      (resave disk files).1.at? file.path = some (.file file.bytes)) ∧
    (file.path ∈ (resave disk files).2 →
      (resave disk files).1.at? file.path = disk.at? file.path) := by
  induction files generalizing disk with
  | nil => cases member
  | cons first rest ih =>
    obtain ⟨head, tail⟩ := List.pairwise_cons.mp apart
    rw [resave]
    cases outcome : first.save disk with
    | mk success next =>
      simp only
      rcases List.mem_cons.mp member with rfl | later
      · have rest_eq : (resave next rest).1.at? file.path = next.at? file.path :=
          at?_resave_of_not_samePlace fun other inside => head other inside next
        cases success with
        | true =>
          refine ⟨fun _ => ?_, fun reported => ?_⟩
          · rw [rest_eq]
            exact Disk.at?_of_written_of_samePlace outcome (Disk.samePlace_self_of_written outcome)
          · -- No other file has this path, for it leads somewhere.
            obtain ⟨other, inside, same⟩ := mem_paths_of_mem_resave reported
            have clash := head other inside disk
            rw [same] at clash
            exact absurd (Disk.samePlace_self_of_written outcome) clash
        | false =>
          refine ⟨fun unreported => absurd List.mem_cons_self unreported, fun _ => ?_⟩
          rw [rest_eq, Disk.eq_spend_of_refused outcome, Disk.at?_spend]
      · obtain ⟨restored, reported⟩ := @ih next tail later
        have next_eq : next.at? file.path = disk.at? file.path := by
          cases success with
          | true =>
            exact Disk.at?_of_written_of_not_samePlace outcome fun same =>
              (head file later).symm disk same
          | false => rw [Disk.eq_spend_of_refused outcome, Disk.at?_spend]
        rw [next_eq] at reported
        cases success with
        | true => exact ⟨restored, reported⟩
        | false =>
          refine ⟨fun unreported => restored fun inside =>
            unreported (List.mem_cons_of_mem _ inside), fun inside => ?_⟩
          by_cases known : file.path ∈ (resave next rest).2
          · exact reported known
          · have same : file.path = first.path := (List.mem_cons.mp inside).resolve_right known
            have clash := head file later (resave next rest).1
            rw [← same] at clash
            exact absurd (Disk.samePlace_self_of_at? (restored known)) clash

/-! ## Failed removals -/

theorem allApart_of_pairwise {files : List BackingFile}
    (apart : (files.map BackingFile.path).Pairwise Path.Apart) : AllApart files :=
  List.pairwise_map.mp apart

theorem AllApart.holders {files : List BackingFile} (apart : AllApart files) (key : String) :
    AllApart (holders key files) :=
  List.Pairwise.filter _ apart

theorem AllApart.reverse {files : List BackingFile} (apart : AllApart files) :
    AllApart files.reverse :=
  List.pairwise_reverse.mpr (List.Pairwise.imp Path.Apart.symm apart)

theorem AllApart.map_without {files : List BackingFile} (apart : AllApart files) (key : String) :
    AllApart (files.map (BackingFile.without · key)) :=
  List.pairwise_map.mpr apart

/-- Two different files are apart. -/
theorem AllApart.apart {files : List BackingFile} (apart : AllApart files)
    {first second : BackingFile} (here : first ∈ files) (there : second ∈ files)
    (different : first ≠ second) : Path.Apart first.path second.path := by
  have symmetric : Std.Symm fun first second : BackingFile => Path.Apart first.path second.path :=
    ⟨fun _ _ => Path.Apart.symm⟩
  exact List.Pairwise.forall apart here there different

/-- So are two files of which only one has entries with a key. -/
theorem AllApart.apart_of_holds {files : List BackingFile} (apart : AllApart files)
    {file holder : BackingFile} (here : file ∈ files) (there : holder ∈ files) {key : String}
    (free : file.holds key = false) (holds : holder.holds key = true) :
    Path.Apart file.path holder.path := by
  refine apart.apart here there ?_
  rintro rfl
  rw [free] at holds
  cases holds

/-- What a failed removal of the entries with a key leaves on the disk.  Some files stand before the
one that could not be written and some after it; those before it that have such entries were
written. -/
structure RolledBack (disk after : Disk) (key : String) (before : List BackingFile)
    (file : BackingFile) (rest : List BackingFile) (unrestored : List String) : Prop where
  /-- Nothing but files that were written can have changed. -/
  untouched : ∀ path, (∀ other ∈ holders key before, ¬ disk.SamePlace path other.path) →
    after.at? path = disk.at? path
  /-- The file that could not be written, those after it and those without such entries are as they
  were. -/
  kept : ∀ other ∈ before ++ file :: rest, other ∈ file :: rest ∨ other.holds key = false →
    after.at? other.path = disk.at? other.path
  /-- A file that was written has all its entries again. -/
  restored : ∀ other ∈ holders key before, other.path ∉ unrestored →
    after.at? other.path = some (.file other.bytes)
  /-- A file that could not be written again has lost its entries. -/
  lost : ∀ other ∈ holders key before, other.path ∈ unrestored →
    after.at? other.path = some (.file (other.without key).bytes)

/-- Writing the files before the one that fails, failing, and writing them again rolls back. -/
theorem rolledBack {key : String} {before rest : List BackingFile} {file : BackingFile}
    {start disk refused : Disk} (apart : AllApart (before ++ file :: rest))
    (saves : SavedAll start ((holders key before).map (BackingFile.without · key)) disk)
    (refusal : (file.without key).save disk = (false, refused)) :
    RolledBack start (resave refused (holders key before).reverse).1 key before file rest
      (resave refused (holders key before).reverse).2 := by
  obtain ⟨front, back, across⟩ := List.pairwise_append.mp apart
  have refused_eq (path : String) : refused.at? path = disk.at? path := by
    rw [Disk.eq_spend_of_refused refusal, Disk.at?_spend]
  have directories : Disk.SameDirectories refused start :=
    (Disk.sameDirectories_of_write refusal).trans saves.sameDirectories
  have untouched : ∀ path, (∀ other ∈ holders key before, ¬ start.SamePlace path other.path) →
      (resave refused (holders key before).reverse).1.at? path = start.at? path := by
    intro path away
    rw [at?_resave_of_not_samePlace, refused_eq, saves.at?_of_not_samePlace]
    · intro swept member
      obtain ⟨other, inside, rfl⟩ := List.mem_map.mp member
      exact away other inside
    · intro other member
      rw [directories.samePlace_iff]
      exact away other (List.mem_reverse.mp member)
  have written : ∀ other ∈ holders key before,
      refused.at? other.path = some (.file (other.without key).bytes) := by
    intro other member
    have swept : other.without key ∈ (holders key before).map (BackingFile.without · key) :=
      List.mem_map_of_mem member
    rw [refused_eq]
    exact saves.at?_of_mem ((AllApart.holders front key).map_without key) swept
  refine ⟨untouched, ?_, ?_, ?_⟩
  · intro other member spared
    refine untouched other.path ?_
    intro holder inside
    obtain ⟨known, holds⟩ := List.mem_filter.mp inside
    rcases spared with later | free
    · exact (across holder known other later).symm start
    · have different : other ≠ holder := by
        rintro rfl
        rw [free] at holds
        cases holds
      exact apart.apart member (List.mem_append_left _ known) different start
  · intro other member
    exact (at?_resave_of_mem (AllApart.holders front key).reverse
      (List.mem_reverse.mpr member)).1
  · intro other member reported
    rw [(at?_resave_of_mem (AllApart.holders front key).reverse
      (List.mem_reverse.mpr member)).2 reported]
    exact written other member

/-- A removal that fails leaves the lexicon as it was and rolls back on the disk. -/
theorem Filed.remove_failed {lexicon : Lexicon} (filed : Filed lexicon) {now : World}
    {word : String} {failure : Failure}
    (failed : (lexicon.remove now word).result = .error failure) :
    (lexicon.remove now word).lexicon = lexicon ∧
      ∃ before file rest, lexicon.files = before ++ file :: rest ∧
        file.holds (Word.key word) = true ∧ failure = .storage file.path ∧
        RolledBack now.disk (lexicon.remove now word).world.disk (Word.key word) before file rest
          (lexicon.remove now word).unrestored := by
  have outcome := removed lexicon now word
  generalize lexicon.remove now word = change at failed outcome ⊢
  cases outcome with
  | unknown => cases failed
  | done => cases failed
  | @failed entry before rest file disk refused present split holds saves refusal =>
    cases failed
    have apart : AllApart (before ++ file :: rest) := by
      rw [← split]
      exact allApart_of_pairwise filed.apart
    exact ⟨rfl, before, file, rest, split, holds, rfl, rolledBack apart saves refusal⟩

/-- **Failed changes are undone.**  Take a lexicon that was loaded and changed by any calls, in any
world, with any writes refused.

* A definition that fails leaves the lexicon and all files as they were.
* A removal that fails leaves the lexicon as it was.  It names the first file with such an entry
  that could not be written.  On the disk, this file, all files without such an entry and everything
  else are as they were; a file that was written before has all its entries again, unless it is
  reported as one that could not be written again.  What is read from it then is its entries from
  before the call, if all fractions among their free members read back. -/
theorem failed_change_undone {world after : World} {dataDirectory : String}
    {language : Option String} {base : Lexicon}
    (loaded : load world dataDirectory language = (.ok base, after)) (calls : List (World × Call))
    (now : World) :
    let lexicon := base.afterCalls calls
    (∀ word level failure,
      let change := lexicon.define now word level
      change.result = .error failure →
        change.lexicon = lexicon ∧ change.world.disk.nodes = now.disk.nodes) ∧
    ∀ word failure,
      let change := lexicon.remove now word
      change.result = .error failure →
        change.lexicon = lexicon ∧
        ∃ before file rest, lexicon.files = before ++ file :: rest ∧
          file.holds (Word.key word) = true ∧ failure = .storage file.path ∧
          RolledBack now.disk change.world.disk (Word.key word) before file rest
            change.unrestored ∧
          ∀ other ∈ holders (Word.key word) before, other.path ∉ change.unrestored →
            (∀ entry ∈ other.entries, entry.FractionsReadBack) → ∀ supply,
              ((change.world.disk.read? other.path).bind fun bytes =>
                Entry.ofFile? bytes supply) = some (other.entries, supply) := by
  intro lexicon
  have filed : Filed lexicon := (filed_of_load loaded).afterCalls calls
  refine ⟨?_, ?_⟩
  · intro word level failure change failed
    have outcome : Defined lexicon now word level change := defined lexicon now word level
    clear_value change
    cases outcome with
    | known => cases failed
    | inMemory => cases failed
    | saved => cases failed
    | failed _ _ _ refused =>
      refine ⟨rfl, ?_⟩
      rw [Disk.eq_spend_of_refused refused]
      rfl
  · intro word failure change failed
    obtain ⟨same, before, file, rest, split, holds, cause, back⟩ := filed.remove_failed failed
    refine ⟨same, before, file, rest, split, holds, cause, back, ?_⟩
    intro other member unreported fractions supply
    have inside : other ∈ lexicon.files := by
      rw [split]
      exact List.mem_append_left _ (List.mem_filter.mp member).1
    rw [Disk.read?_eq_of_at? (back.restored other member unreported), Option.bind_some]
    exact Entry.ofFile?_fileText (filed.readable other inside) fractions supply

/-- A lexicon that was loaded from the directory `words`, and what comes of a removal from it right
after that, with some writes refused. -/
def removeLoaded (disk : Disk) (refusals : List Bool) (word : String) :
    Option (Lexicon × Change Nat) :=
  match load ⟨disk, ⟨0⟩⟩ "words" none with
  | (.ok lexicon, after) =>
    some (lexicon, lexicon.remove ⟨{ after.disk with refusals := refusals }, after.supply⟩ word)
  | (.error _, _) => none

/-- The lexicon was loaded, and the removal is one from it. -/
theorem exists_load_of_removeLoaded {disk : Disk} {refusals : List Bool} {word : String}
    {lexicon : Lexicon} {change : Change Nat}
    (run : removeLoaded disk refusals word = some (lexicon, change)) :
    ∃ after now, load ⟨disk, ⟨0⟩⟩ "words" none = (.ok lexicon, after) ∧
      change = lexicon.remove now word := by
  unfold removeLoaded at run
  split at run
  · next after loaded =>
    cases run
    exact ⟨after, _, loaded, rfl⟩
  · cases run

/-- A removal fails at the second of two files, and the first one is written again. -/
theorem failed_change_undone_twoFiles :
    ∃ lexicon change, removeLoaded twoFiles [false, true] "GRACE" = some (lexicon, change) ∧
      change.result.isOk = false ∧ change.lexicon = lexicon := by
  have fails : ((removeLoaded twoFiles [false, true] "GRACE").map fun run =>
      run.2.result.isOk) = some false := by decide +kernel
  obtain ⟨⟨lexicon, change⟩, run, failed⟩ := Option.map_eq_some_iff.mp fails
  refine ⟨lexicon, change, run, failed, ?_⟩
  obtain ⟨after, now, loaded, rfl⟩ := exists_load_of_removeLoaded run
  cases result : (lexicon.remove now "GRACE").result with
  | ok count =>
    simp only [result] at failed
    cases failed
  | error failure => exact ((failed_change_undone loaded [] now).2 "GRACE" failure result).1

/-- A directory with two files that have a word in common; in the first one its entry has a fraction
among its free members. -/
def fractionFiles : Disk :=
  { nodes :=
      [(["words"], .directory),
        (["words", "a.dictionary"], .file
          "\x7b\"entries\":[\x7b\"headWord\":\"amen\",\"extra\":\x7b\"f\":5e32\x7d\x7d]\x7d".toUTF8),
        (["words", "b.dictionary"], .file (headWordBytes ["amen"]))] }

/-- The fraction that `5e32` is read as.  It is off by a little. -/
def nearFraction : Json.Number :=
  .fraction ⟨5096006472832567709⟩

theorem legible_nearFraction : nearFraction.Legible := by
  have chars : nearFraction.chars = "5.0000000000000004e+32".toList := by decide +kernel
  rw [Json.Number.Legible, chars]
  rfl

/-- Entries with this fraction as their only number have legible numbers. -/
theorem legible_of_numbers_eq {entries : List Entry}
    (held : entries.flatMap Entry.numbers = [nearFraction]) :
    ∀ entry ∈ entries, ∀ n ∈ entry.numbers, n.Legible := by
  intro entry member n number
  have inside : n ∈ entries.flatMap Entry.numbers :=
    List.mem_flatMap.mpr ⟨entry, member, number⟩
  rw [held, List.mem_singleton] at inside
  rw [inside]
  exact legible_nearFraction

/-- The removal fails at the second file, after the first one was written; it is written again. -/
theorem result_removeLoaded_fractionFiles :
    ((removeLoaded fractionFiles [false, true] "amen").map fun run =>
      (match run.2.result with
        | .error (.storage path) => some path
        | _ => none,
        run.2.unrestored, run.1.files.map fun file => (file.path, file.holds "amen"))) =
      some (some "words/b.dictionary", [],
        [("words/a.dictionary", true), ("words/b.dictionary", true)]) := by
  decide +kernel

/-- The numbers in the files, and those in what is read from their forms. -/
theorem numbers_removeLoaded_fractionFiles :
    ((removeLoaded fractionFiles [false, true] "amen").map fun run =>
      run.1.files.map fun file =>
        (file.entries.flatMap Entry.numbers,
          (Entry.ofForms? (Json.depthLimit - 2)
            (file.entries.map fun entry => Json.toForm entry.json) run.2.world.supply).map
              fun read => read.1.flatMap Entry.numbers)) =
      some [([nearFraction], some [.fraction ⟨5096006472832567708⟩]), ([], some [])] := by
  decide +kernel

/-- **A restored file need not read as before.**  A removal fails at the second of two files.  The
first one is written again, but what is read from it then is not what it had before the call: a
fraction is off by a little once more. -/
theorem restored_file_reads_differently :
    ∃ lexicon change, removeLoaded fractionFiles [false, true] "amen" = some (lexicon, change) ∧
      change.result = .error (.storage "words/b.dictionary") ∧ change.unrestored = [] ∧
      ∃ file ∈ lexicon.files, file.path = "words/a.dictionary" ∧ file.holds "amen" = true ∧
        ((change.world.disk.read? file.path).bind fun bytes =>
          Entry.ofFile? bytes change.world.supply) ≠ some (file.entries, change.world.supply) := by
  obtain ⟨⟨lexicon, change⟩, run, result⟩ :=
    Option.map_eq_some_iff.mp result_removeLoaded_fractionFiles
  have numbers := numbers_removeLoaded_fractionFiles
  rw [run, Option.map_some, Option.some.injEq] at numbers
  simp only [Prod.mk.injEq] at result
  obtain ⟨failedAt, reported, places⟩ := result
  obtain ⟨after, now, loaded, same⟩ := exists_load_of_removeLoaded run
  obtain ⟨first, others, files, place, places⟩ := List.map_eq_cons_iff.mp places
  obtain ⟨second, none, others_eq, next, nil⟩ := List.map_eq_cons_iff.mp places
  rw [List.map_eq_nil_iff] at nil
  subst nil others_eq
  rw [files, List.map_cons, List.cons.injEq, Prod.mk.injEq] at numbers
  obtain ⟨⟨held, reread⟩, -⟩ := numbers
  obtain ⟨path, holds⟩ := Prod.mk.inj place
  cases result : change.result with
  | ok count => simp [result] at failedAt
  | error failure =>
    have key : Word.key "amen" = "amen" := by decide +kernel
    have failed : (lexicon.remove now "amen").result = .error failure := by rw [← same, result]
    obtain ⟨_, before, file, rest, split, _, rfl, back⟩ :=
      (filed_of_load loaded).remove_failed failed
    rw [← same, key] at back
    rw [result] at failedAt
    refine ⟨lexicon, change, run, by rw [result, Option.some.inj failedAt], reported, first,
      by rw [files]; exact List.mem_cons_self, path, holds, ?_⟩
    -- The second file is the one that could not be written, so the first one comes before it.
    have earlier : first ∈ holders "amen" before := by
      cases before with
      | nil =>
        rw [files, List.nil_append, List.cons.injEq] at split
        rw [← split.1, path] at failedAt
        exact absurd failedAt (by decide)
      | cons head more =>
        rw [files, List.cons_append, List.cons.injEq] at split
        rw [← split.1]
        exact List.mem_filter.mpr ⟨List.mem_cons_self, holds⟩
    have legible := legible_of_numbers_eq held
    have restored := back.restored first earlier (by rw [reported]; exact List.not_mem_nil)
    rw [Disk.read?_eq_of_at? restored, Option.bind_some, BackingFile.bytes,
      Entry.ofFile?_fileText_eq legible]
    intro equal
    rw [equal, Option.map_some, held] at reread
    exact absurd reread (by decide)

end Lexicon

end Orthography
