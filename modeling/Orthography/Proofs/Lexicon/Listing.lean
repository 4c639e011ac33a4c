import Orthography.Lexicon.Archive
import Orthography.Proofs.Storage.Directory
import Orthography.Proofs.Storage.Path

/-!
# The files of a lexicon in a directory

The paths of a lexicon are those of the files in its directory that have its extension, in ascending
order (`Lexicon.backingPaths?_eq_some_iff`).  They are apart
(`Lexicon.pairwise_apart_backingPaths?`), and they depend on the shape of the disk only
(`Lexicon.backingPaths?_eq_of_sameShape`).

What comes of preparing a directory has one constructor for each outcome (`Lexicon.Prepared`).  A
directory that was prepared once is prepared: doing it again gives the same paths and changes
nothing (`Lexicon.prepare_of_prepared`).
-/

namespace Orthography.Lexicon

set_option autoImplicit false

/-! ## Listing -/

/-- The names of the files of a lexicon right below a location, in ascending order. -/
structure Listed (disk : Disk) (location : Location) (names : List String) : Prop where
  ascending : names.Pairwise (· < ·)
  mem_iff : ∀ name, name ∈ names ↔
    Path.isName name = true ∧ Path.extension? name = some BackingFile.extension ∧
      (disk.bytesAt? (location ++ [name])).isSome = true

/-- A file is something. -/
theorem isSome_node?_of_bytesAt? {disk : Disk} {location : Location}
    (isFile : (disk.bytesAt? location).isSome = true) : (disk.node? location).isSome = true := by
  rw [Disk.bytesAt?] at isFile
  cases found : disk.node? location with
  | none => simp [found] at isFile
  | some node => rfl

/-- The paths of a lexicon are made of its directory and the names that are listed there. -/
theorem backingPaths?_eq_some_iff {disk : Disk} {directory : String} {paths : List String} :
    backingPaths? disk directory = some paths ↔
      ∃ location names, disk.locate directory = some location ∧ Listed disk location names ∧
        paths = names.map (Path.join directory) := by
  have listed (location : Location) : Listed disk location
      ((disk.children location).filter fun name =>
        Path.extension? name = some BackingFile.extension
          && (disk.bytesAt? (location ++ [name])).isSome) := by
    refine ⟨List.Pairwise.filter _ (disk.ascending_children location), fun name => ?_⟩
    rw [List.mem_filter, Disk.mem_children_iff, and_assoc, Bool.and_eq_true, decide_eq_true_eq]
    refine and_congr_right fun _ => ?_
    exact and_iff_right_of_imp fun held => isSome_node?_of_bytesAt? held.2
  unfold backingPaths?
  cases here : disk.locate directory with
  | none => simp
  | some location =>
    simp only [Option.some.injEq]
    constructor
    · rintro rfl
      exact ⟨location, _, rfl, listed location, rfl⟩
    · rintro ⟨_, names, rfl, other, rfl⟩
      refine congrArg (List.map (Path.join directory)) ?_
      refine Disk.eq_of_ascending (listed location).ascending other.ascending fun name => ?_
      rw [(listed location).mem_iff, other.mem_iff]

/-- The paths of the files of a lexicon are apart. -/
theorem pairwise_apart_backingPaths? {disk : Disk} {directory : String} {paths : List String}
    (found : backingPaths? disk directory = some paths) : paths.Pairwise Path.Apart := by
  obtain ⟨location, names, -, listed, rfl⟩ := backingPaths?_eq_some_iff.mp found
  rw [List.pairwise_map]
  refine List.Pairwise.imp_of_mem ?_ (Disk.nodup_of_ascending listed.ascending)
  intro first second here there different
  exact Path.apart_join directory ((listed.mem_iff first).mp here).1
    ((listed.mem_iff second).mp there).1 different

/-- Disks of one shape have the same paths for a lexicon. -/
theorem backingPaths?_eq_of_sameShape {first second : Disk} (same : Disk.SameShape first second)
    (directory : String) : backingPaths? first directory = backingPaths? second directory := by
  have listed_iff (location : Location) (names : List String) :
      Listed first location names ↔ Listed second location names := by
    constructor
    · intro listed
      exact ⟨listed.ascending, fun name => by rw [listed.mem_iff, same.isFileAt]⟩
    · intro listed
      exact ⟨listed.ascending, fun name => by rw [listed.mem_iff, same.isFileAt]⟩
  refine Option.ext fun paths => ?_
  rw [backingPaths?_eq_some_iff, backingPaths?_eq_some_iff]
  simp only [listed_iff, same.locate_eq]

/-- Where no file was listed, one that is written under the default name is the only one. -/
theorem backingPaths?_of_written {disk after : Disk} {directory : String} {bytes : ByteArray}
    (empty : backingPaths? disk directory = some [])
    (written : disk.write (Path.join directory BackingFile.defaultName) bytes = (true, after)) :
    backingPaths? after directory = some [Path.join directory BackingFile.defaultName] := by
  have proper : Path.isName BackingFile.defaultName = true := by decide
  obtain ⟨location, names, here, listed, none⟩ := backingPaths?_eq_some_iff.mp empty
  rw [eq_comm, List.map_eq_nil_iff] at none
  subst none
  have outcome := Disk.written disk (Path.join directory BackingFile.defaultName) bytes
  rw [written] at outcome
  cases outcome with
  | @done place there free =>
    rw [Path.locate_join here proper, Option.ite_none_right_eq_some] at there
    obtain ⟨-, same⟩ := there
    cases same
    refine backingPaths?_eq_some_iff.mpr
      ⟨location, [BackingFile.defaultName], ?_, ⟨List.pairwise_singleton _ _, fun name => ?_⟩, rfl⟩
    · rw [(Disk.sameDirectories_of_write written).locate_eq, here]
    · rw [List.mem_singleton, Disk.bytesAt?_put_file (by simp)]
      by_cases default : name = BackingFile.defaultName
      · subst default
        simp only [if_true, Option.isSome_some, and_true, true_iff]
        exact ⟨proper, by decide⟩
      · -- Any other file would have been listed before.
        rw [if_neg (by simpa using default), iff_false_left default]
        exact fun held => List.not_mem_nil ((listed.mem_iff name).mpr held)

/-! ## Preparing a directory -/

/-- What comes of preparing the directory of a lexicon. -/
inductive Prepared (disk : Disk) (directory : String) :
    Except Failure (List String) × Disk → Prop where
  | unmade {after : Disk} (made : disk.ensureDirectory directory = (false, after)) :
      Prepared disk directory (.error (.storage directory), after)
  | unlisted {after : Disk} (made : disk.ensureDirectory directory = (true, after))
      (none : backingPaths? after directory = none) :
      Prepared disk directory (.error (.storage directory), after)
  | listed {after : Disk} {paths : List String}
      (made : disk.ensureDirectory directory = (true, after))
      (found : backingPaths? after directory = some paths) (filled : paths ≠ []) :
      Prepared disk directory (.ok paths, after)
  | created {empty after : Disk} (made : disk.ensureDirectory directory = (true, empty))
      (none : backingPaths? empty directory = some [])
      (written : (BackingFile.mk (Path.join directory BackingFile.defaultName) []).save empty =
        (true, after)) :
      Prepared disk directory (.ok [Path.join directory BackingFile.defaultName], after)
  | refused {empty after : Disk} (made : disk.ensureDirectory directory = (true, empty))
      (none : backingPaths? empty directory = some [])
      (refusal : (BackingFile.mk (Path.join directory BackingFile.defaultName) []).save empty =
        (false, after)) :
      Prepared disk directory
        (.error (.storage (Path.join directory BackingFile.defaultName)), after)

/-- Every preparation has one of the outcomes. -/
theorem prepared (disk : Disk) (directory : String) :
    Prepared disk directory (prepare disk directory) := by
  unfold prepare
  split
  · next made => exact .unmade made
  · next made =>
    split
    · next none => exact .unlisted made none
    · next none =>
      simp only
      split
      · next written => exact .created made none written
      · next refusal => exact .refused made none refusal
    · next filled found =>
      refine .listed made found ?_
      rintro rfl
      exact filled rfl

variable {disk after : Disk} {directory : String} {paths : List String}

/-- There is always a file to load. -/
theorem paths_ne_nil_of_prepare (run : prepare disk directory = (.ok paths, after)) :
    paths ≠ [] := by
  have outcome := prepared disk directory
  rw [run] at outcome
  cases outcome with
  | listed _ _ filled => exact filled
  | created => exact List.cons_ne_nil _ _

/-- The paths that a lexicon is loaded from lead to different locations. -/
theorem apart_of_prepare (run : prepare disk directory = (.ok paths, after)) :
    paths.Pairwise Path.Apart := by
  have outcome := prepared disk directory
  rw [run] at outcome
  cases outcome with
  | listed _ found => exact pairwise_apart_backingPaths? found
  | created => exact List.pairwise_singleton _ _

/-- **A directory is prepared once.**  On every disk of the shape that it left, preparing it again
gives the same paths and changes nothing. -/
theorem prepare_of_prepared (run : prepare disk directory = (.ok paths, after)) {other : Disk}
    (same : Disk.SameShape other after) : prepare other directory = (.ok paths, other) := by
  have again (found : backingPaths? after directory = some paths)
      (made : other.ensureDirectory directory = (true, other)) :
      prepare other directory = (.ok paths, other) := by
    rw [← backingPaths?_eq_of_sameShape same] at found
    unfold prepare
    simp only [made, found]
    split
    · next impossible => cases impossible
    · next empty =>
      cases empty
      exact absurd rfl (paths_ne_nil_of_prepare run)
    · next equal =>
      cases equal
      rfl
  have outcome := prepared disk directory
  rw [run] at outcome
  cases outcome with
  | listed made found =>
    exact again found (Disk.ensureDirectory_of_made made same.toSameDirectories)
  | created made none written =>
    refine again (backingPaths?_of_written none written) (Disk.ensureDirectory_of_made made ?_)
    exact same.toSameDirectories.trans (Disk.sameDirectories_of_write written)

end Orthography.Lexicon
