import Orthography.Lexicon.KeyMap
import Orthography.Proofs.Storage.Disk

/-!
# Directories and what they list

Directories that were made once are there, and making directories that are there changes nothing
(`Disk.ensureDirectory_of_made`, `Disk.ensureDirectory_of_isDirectory`).  A directory lists the names
of what stands right below it (`Disk.mem_children_iff`).

Two disks have the same shape when they have the same directories and the same files, whatever is in
the files (`Disk.SameShape`).  Writing over a file keeps the shape of a disk
(`Disk.sameShape_of_write`).
-/

namespace Orthography

set_option autoImplicit false

namespace Disk

/-! ## Making directories -/

/-- A directory that is put somewhere stands there, next to those that were there before. -/
theorem isDirectoryAt_put_directory {disk : Disk} {location : Location} (below : location ≠ [])
    (other : Location) :
    (disk.put location .directory).isDirectoryAt other =
      (decide (other = location) || disk.isDirectoryAt other) := by
  rw [isDirectoryAt, node?_put below, isDirectoryAt]
  by_cases here : other = location <;> simp [here]

section MakeDirectories

variable {disk after : Disk} {location : Location} {names : List String} {success : Bool}

/-- Making directories leaves the current one as it is. -/
theorem current_of_makeDirectories
    (made : disk.makeDirectories location names = (success, after)) :
    after.current = disk.current := by
  induction names generalizing disk location with
  | nil =>
    cases made
    rfl
  | cons name rest ih =>
    rw [makeDirectories] at made
    split at made
    · exact ih made
    · split at made
      · exact ih made
      · simp only at made
        split at made
        · exact ih made
        · cases made
          rfl
        · exact (ih made).trans rfl

/-- Making directories takes none away. -/
theorem isDirectoryAt_of_makeDirectories
    (made : disk.makeDirectories location names = (success, after)) {other : Location}
    (there : disk.isDirectoryAt other = true) : after.isDirectoryAt other = true := by
  induction names generalizing disk location with
  | nil =>
    cases made
    exact there
  | cons name rest ih =>
    rw [makeDirectories] at made
    split at made
    · exact ih made there
    · split at made
      · exact ih made there
      · simp only at made
        split at made
        · exact ih made there
        · cases made
          exact there
        · refine ih made ?_
          rw [isDirectoryAt_put_directory (by simp), there, Bool.or_true]

/-- Directories that were made need not be made again, on any disk that still has them. -/
theorem makeDirectories_of_made (made : disk.makeDirectories location names = (true, after))
    {other : Disk}
    (there : ∀ place, after.isDirectoryAt place = true → other.isDirectoryAt place = true) :
    other.makeDirectories location names = (true, other) := by
  induction names generalizing disk location with
  | nil =>
    rw [makeDirectories, Prod.mk.injEq] at made
    obtain ⟨directory, rfl⟩ := made
    rw [makeDirectories, there location directory]
  | cons name rest ih =>
    rw [makeDirectories] at made
    rw [makeDirectories]
    split at made
    · next skipped => rw [if_pos skipped, ih made]
    · next proper =>
      rw [if_neg proper]
      split at made
      · next up => rw [if_pos up, ih made]
      · next down =>
        rw [if_neg down]
        -- Whether it was there before or has just been made, the next directory is there now.
        have found (held : other.isDirectoryAt (location ++ [name]) = true) :
            other.node? (location ++ [name]) = some .directory := by
          simpa [isDirectoryAt] using held
        simp only at made ⊢
        split at made
        · next old =>
          have held : disk.isDirectoryAt (location ++ [name]) = true := by
            simp [isDirectoryAt, old]
          have stays := isDirectoryAt_of_makeDirectories made held
          rw [found (there _ stays)]
          exact ih made
        · cases made
        · have held : (disk.put (location ++ [name]) .directory).isDirectoryAt
              (location ++ [name]) = true := by
            simp [isDirectoryAt_put_directory]
          have stays := isDirectoryAt_of_makeDirectories made held
          rw [found (there _ stays)]
          exact ih made

end MakeDirectories

/-- **A directory that was made need not be made again**, on any disk that has the same
directories. -/
theorem ensureDirectory_of_made {disk after other : Disk} {path : String}
    (made : disk.ensureDirectory path = (true, after)) (same : SameDirectories other after) :
    other.ensureDirectory path = (true, other) := by
  have start : other.origin path = disk.origin path := by
    rw [origin, origin, same.current, current_of_makeDirectories made]
  rw [ensureDirectory, start]
  refine makeDirectories_of_made made fun place directory => ?_
  rw [same.isDirectoryAt, directory]

/-- Names that lead to a directory lead there from a directory. -/
theorem isDirectoryAt_of_follow {disk : Disk} {location last : Location} {names : List String}
    (found : disk.follow location names = some last)
    (there : disk.isDirectoryAt last = true) : disk.isDirectoryAt location = true := by
  cases names with
  | nil =>
    cases found
    exact there
  | cons name rest =>
    rw [follow] at found
    cases here : disk.isDirectoryAt location with
    | true => rfl
    | false =>
      rw [here] at found
      cases found

/-- Directories that names lead through need not be made. -/
theorem makeDirectories_of_follow {disk : Disk} {location last : Location} {names : List String}
    (found : disk.follow location names = some last)
    (there : disk.isDirectoryAt last = true) :
    disk.makeDirectories location names = (true, disk) := by
  induction names generalizing location with
  | nil =>
    cases found
    rw [makeDirectories, there]
  | cons name rest ih =>
    have here := isDirectoryAt_of_follow found there
    rw [follow, here, if_neg (by decide)] at found
    rw [makeDirectories]
    split at found
    · next skipped => rw [if_pos skipped, ih found]
    · next proper =>
      rw [if_neg proper]
      split at found
      · next up => rw [if_pos up, ih found]
      · next down =>
        have next := isDirectoryAt_of_follow found there
        rw [isDirectoryAt, decide_eq_true_iff] at next
        rw [if_neg down]
        simp only [next, ih found]

/-- **A directory that is there need not be made.** -/
theorem ensureDirectory_of_isDirectory {disk : Disk} {path : String}
    (there : disk.isDirectory path = true) : disk.ensureDirectory path = (true, disk) := by
  rw [isDirectory, decide_eq_true_iff] at there
  obtain ⟨location, here, held⟩ := Option.bind_eq_some_iff.mp there
  rw [locate] at here
  split at here
  · cases here
  · exact makeDirectories_of_follow here (decide_eq_true held)

/-! ## Listing -/

/-- Names with one more are kept in the same way as keys of a map. -/
theorem insertPair_map_unit (name : String) (names : List String) :
    KeyMap.insertPair name () (names.map fun other => (other, ())) =
      (insertName name names).map fun other => (other, ()) := by
  induction names with
  | nil => rfl
  | cons other rest ih =>
    rw [List.map_cons, KeyMap.insertPair, insertName]
    split
    · rfl
    · split
      · next same => rw [same, List.map_cons]
      · rw [ih, List.map_cons]

/-- Inserting a name keeps the order. -/
theorem ascending_insertName {names : List String} (ascending : names.Pairwise (· < ·))
    (name : String) : (insertName name names).Pairwise (· < ·) := by
  have pairs : (names.map fun other => (other, ())).Pairwise fun first second =>
      first.1 < second.1 := List.pairwise_map.mpr ascending
  have inserted : (KeyMap.insertPair name () (names.map fun other => (other, ()))).Pairwise
      fun first second => first.1 < second.1 := KeyMap.ascending_insertPair pairs
  rw [insertPair_map_unit, List.pairwise_map] at inserted
  exact inserted

/-- Sorted names are in ascending order. -/
theorem ascending_sortNames (names : List String) : (sortNames names).Pairwise (· < ·) := by
  have fold (sorted : List String) (ascending : sorted.Pairwise (· < ·)) :
      (names.foldl (fun sorted name => insertName name sorted) sorted).Pairwise (· < ·) := by
    induction names generalizing sorted with
    | nil => exact ascending
    | cons name rest ih => exact ih _ (ascending_insertName ascending name)
  exact fold [] List.Pairwise.nil

/-- Names in ascending order are all different. -/
theorem nodup_of_ascending {names : List String} (ascending : names.Pairwise (· < ·)) :
    names.Nodup := by
  refine ascending.imp ?_
  rintro name _ less rfl
  exact String.lt_irrefl name less

/-- A directory lists names in ascending order. -/
theorem ascending_children (disk : Disk) (location : Location) :
    (disk.children location).Pairwise (· < ·) :=
  List.Pairwise.filter _ (ascending_sortNames _)

theorem mem_insertName {name other : String} {names : List String} :
    other ∈ insertName name names ↔ other = name ∨ other ∈ names := by
  induction names with
  | nil => rw [insertName, List.mem_singleton, or_iff_left List.not_mem_nil]
  | cons first rest ih =>
    rw [insertName]
    split
    · rw [List.mem_cons]
    · split
      · next same =>
        subst same
        simp
      · rw [List.mem_cons, ih, List.mem_cons]
        exact or_left_comm

/-- Sorting loses no name. -/
theorem mem_sortNames {name : String} {names : List String} :
    name ∈ sortNames names ↔ name ∈ names := by
  have fold (sorted : List String) :
      name ∈ names.foldl (fun sorted name => insertName name sorted) sorted ↔
        name ∈ sorted ∨ name ∈ names := by
    induction names generalizing sorted with
    | nil => simp
    | cons first rest ih =>
      rw [List.foldl_cons, ih, mem_insertName, List.mem_cons, or_assoc, or_left_comm]
  rw [sortNames, fold, or_iff_right List.not_mem_nil]

theorem childName?_eq_some_iff {location other : Location} {name : String} :
    childName? location other = some name ↔ other = location ++ [name] := by
  constructor
  · intro found
    unfold childName? at found
    split at found
    · next last final =>
      split at found
      · next above =>
        cases found
        obtain ⟨front, rfl⟩ := List.getLast?_eq_some_iff.mp final
        rw [← above, List.dropLast_concat]
      · cases found
    · cases found
  · rintro rfl
    simp [childName?]

theorem isSome_lookup_iff {location : Location} {nodes : List (Location × DiskNode)} :
    (nodes.lookup location).isSome = true ↔ ∃ entry ∈ nodes, entry.1 = location := by
  rw [List.lookup_eq_findSome?, List.findSome?_isSome_iff]
  refine exists_congr fun entry => and_congr_right fun _ => ?_
  by_cases here : location = entry.1
  · simp [here]
  · simp [here, Ne.symm here]

/-- **A directory lists what stands right below it**, as far as a path can lead there. -/
theorem mem_children_iff {disk : Disk} {location : Location} {name : String} :
    name ∈ disk.children location ↔
      Path.isName name = true ∧ (disk.node? (location ++ [name])).isSome = true := by
  rw [children, List.mem_filter, mem_sortNames, List.mem_filterMap, and_comm]
  refine and_congr_right fun _ => ?_
  rw [node?, if_neg (by simp), isSome_lookup_iff]
  exact exists_congr fun entry => and_congr_right fun _ => childName?_eq_some_iff

/-- Names in ascending order are determined by which they are. -/
theorem eq_of_ascending {first second : List String} (left : first.Pairwise (· < ·))
    (right : second.Pairwise (· < ·)) (same : ∀ name, name ∈ first ↔ name ∈ second) :
    first = second := by
  have perm : first.Perm second :=
    (List.perm_ext_iff_of_nodup (nodup_of_ascending left) (nodup_of_ascending right)).mpr same
  exact perm.eq_of_pairwise
    (fun _ _ _ _ less greater => absurd (String.lt_trans less greater) (String.lt_irrefl _))
    left right

/-! ## Disks of one shape -/

/-- Two disks have the same directories and the same files, whatever is in the files. -/
structure SameShape (first second : Disk) : Prop extends SameDirectories first second where
  isFileAt : ∀ location,
    (first.bytesAt? location).isSome = (second.bytesAt? location).isSome

theorem SameShape.refl (disk : Disk) : SameShape disk disk :=
  ⟨⟨rfl, fun _ => rfl⟩, fun _ => rfl⟩

theorem SameShape.trans {first second third : Disk} (left : SameShape first second)
    (right : SameShape second third) : SameShape first third :=
  ⟨left.toSameDirectories.trans right.toSameDirectories,
    fun location => (left.isFileAt location).trans (right.isFileAt location)⟩

/-- Disks of one shape have their files at the same paths. -/
theorem SameShape.isSome_read? {first second : Disk} (same : SameShape first second)
    (path : String) : (first.read? path).isSome = (second.read? path).isSome := by
  rw [read?, read?, same.locate_eq]
  cases second.locate path with
  | none => rfl
  | some location => exact same.isFileAt location

/-- The bytes of a file that was put somewhere are found there, and the others where they were. -/
theorem bytesAt?_put_file {disk : Disk} {location : Location} (below : location ≠ [])
    (bytes : ByteArray) (other : Location) :
    (disk.put location (.file bytes)).bytesAt? other =
      if other = location then some bytes else disk.bytesAt? other := by
  rw [bytesAt?, node?_put below]
  by_cases here : other = location
  · simp [here]
  · rw [if_neg here, if_neg here, bytesAt?]

/-- **Writing over a file keeps the shape of the disk**, whether or not it succeeds. -/
theorem sameShape_of_write {disk after : Disk} {path : String} {bytes : ByteArray} {success : Bool}
    (run : disk.write path bytes = (success, after))
    (isFile : (disk.read? path).isSome = true) : SameShape after disk := by
  refine ⟨sameDirectories_of_write run, fun other => ?_⟩
  have outcome := written disk path bytes
  rw [run] at outcome
  cases outcome with
  | refused => rfl
  | @done location here free =>
    have below : location ≠ [] := by
      rintro rfl
      simp [canHold] at free
    rw [bytesAt?_put_file below]
    split
    · next same =>
      rw [read?, here, Option.bind_some] at isFile
      rw [same, isFile, Option.isSome_some]
    · rfl

end Disk

end Orthography
