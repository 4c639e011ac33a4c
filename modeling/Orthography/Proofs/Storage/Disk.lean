import Orthography.Storage.Disk

/-!
# What a write does to a disk

A write that succeeds changes what stands at its location (`Disk.at?_of_written_of_samePlace`) and
nothing else (`Disk.at?_of_written_of_not_samePlace`).  A write that fails changes nothing but which
of the next writes are refused (`Disk.eq_spend_of_refused`).

Both rest on one observation: a file is never put in place of a directory, so that the directories
are the same before and after a write, and every path leads to the same location
(`Disk.SameDirectories.locate_eq`).  For the same reason a file that could be written once can be
written again, as long as the disk refuses no write (`Disk.Writable`).  More exactly, how many writes
to a path succeed in a row depends on which of the next ones are refused
(`Disk.acceptsWrites_succ_iff`).
-/

namespace Orthography.Disk

set_option autoImplicit false

/-! ## Directories -/

/-- Two disks have the same directories, the current one among them. -/
structure SameDirectories (first second : Disk) : Prop where
  current : first.current = second.current
  isDirectoryAt : ∀ location, first.isDirectoryAt location = second.isDirectoryAt location

theorem SameDirectories.trans {first second third : Disk} (left : SameDirectories first second)
    (right : SameDirectories second third) : SameDirectories first third :=
  ⟨left.current.trans right.current,
    fun location => (left.isDirectoryAt location).trans (right.isDirectoryAt location)⟩

/-- Where names lead to depends on the directories only. -/
theorem SameDirectories.follow_eq {first second : Disk} (same : SameDirectories first second)
    (location : Location) (names : List String) :
    first.follow location names = second.follow location names := by
  induction names generalizing location with
  | nil => rfl
  | cons name rest ih => simp only [follow, same.isDirectoryAt, ih]

/-- Where a path leads to depends on the directories only. -/
theorem SameDirectories.locate_eq {first second : Disk} (same : SameDirectories first second)
    (path : String) : first.locate path = second.locate path := by
  simp only [locate, origin, same.current, same.follow_eq]

/-- Which of the next writes are refused changes nothing that a path leads to. -/
theorem at?_withRefusals (disk : Disk) (refusals : List Bool) (path : String) :
    { disk with refusals := refusals }.at? path = disk.at? path := by
  have same : SameDirectories { disk with refusals := refusals } disk := ⟨rfl, fun _ => rfl⟩
  rw [at?, at?, same.locate_eq]
  rfl

/-- An attempt to write changes no directory. -/
theorem sameDirectories_spend (disk : Disk) : SameDirectories disk.spend disk :=
  ⟨rfl, fun _ => rfl⟩

/-- An attempt to write changes nothing that a path leads to. -/
@[simp] theorem at?_spend (disk : Disk) (path : String) : disk.spend.at? path = disk.at? path :=
  at?_withRefusals disk _ path

/-! ## Putting something at a location -/

/-- What is read from a path does not depend on which of the next writes are refused. -/
@[simp] theorem read?_spend (disk : Disk) (path : String) :
    disk.spend.read? path = disk.read? path := by
  rw [read?, (sameDirectories_spend disk).locate_eq]
  rfl

/-- Looking up after something was replaced. -/
theorem lookup_replace (location other : Location) (node : DiskNode)
    (nodes : List (Location × DiskNode)) :
    (replace location node nodes).lookup other =
      if other = location then some node else nodes.lookup other := by
  induction nodes with
  | nil =>
    by_cases here : other = location
    · simp [replace, here]
    · simp [replace, List.lookup_cons, here, beq_false_of_ne here]
  | cons entry rest ih =>
    obtain ⟨held, old⟩ := entry
    by_cases found : held = location
    · by_cases here : other = location
      · simp [replace, found, here]
      · simp [replace, List.lookup_cons, found, here, beq_false_of_ne here]
    · by_cases next : other = held
      · subst next
        simp [replace, found]
      · simp [replace, List.lookup_cons, found, beq_false_of_ne next, ih]

/-- Putting something at a location changes what stands there and nothing else. -/
theorem node?_put {disk : Disk} {location : Location} (below : location ≠ []) (node : DiskNode)
    (other : Location) :
    (disk.put location node).node? other =
      if other = location then some node else disk.node? other := by
  by_cases root : other = []
  · subst root
    rw [if_neg (Ne.symm below)]
    rfl
  · simp [node?, root, put, lookup_replace]

/-- A file that is put where it can be held changes no directory. -/
theorem sameDirectories_put_file {disk : Disk} {location : Location}
    (free : disk.canHold location = true) (bytes : ByteArray) :
    SameDirectories (disk.put location (.file bytes)) disk := by
  refine ⟨rfl, ?_⟩
  intro other
  simp only [canHold, Bool.and_eq_true, Bool.not_eq_true', List.isEmpty_eq_false_iff] at free
  obtain ⟨⟨below, -⟩, noDirectory⟩ := free
  by_cases here : other = location
  · rw [here, noDirectory, isDirectoryAt, node?_put below, if_pos rfl]
    rfl
  · rw [isDirectoryAt, isDirectoryAt, node?_put below, if_neg here]

/-! ## Writes -/

/-- What comes of writing a file: it stands at its location, or nothing has changed. -/
inductive Written (disk : Disk) (path : String) (bytes : ByteArray) : Bool × Disk → Prop where
  | done {location : Location} (here : disk.locate path = some location)
      (free : disk.spend.canHold location = true) :
      Written disk path bytes (true, disk.spend.put location (.file bytes))
  | refused : Written disk path bytes (false, disk.spend)

/-- Every write has one of the two outcomes. -/
theorem written (disk : Disk) (path : String) (bytes : ByteArray) :
    Written disk path bytes (disk.write path bytes) := by
  unfold write
  split
  · exact .refused
  · next location here =>
    split
    · exact .refused
    · next accepted =>
      refine .done here ?_
      have free : disk.canHold location = true := by
        cases held : disk.canHold location with
        | true => rfl
        | false => simp [held] at accepted
      exact free

variable {disk after : Disk} {path : String} {bytes : ByteArray}

/-- A write that fails changes nothing but which of the next writes are refused. -/
theorem eq_spend_of_refused (refused : disk.write path bytes = (false, after)) :
    after = disk.spend := by
  have outcome := written disk path bytes
  rw [refused] at outcome
  cases outcome
  rfl

/-- A write changes no directory. -/
theorem sameDirectories_of_write {success : Bool}
    (run : disk.write path bytes = (success, after)) : SameDirectories after disk := by
  have outcome := written disk path bytes
  rw [run] at outcome
  cases outcome with
  | done here free => exact (sameDirectories_put_file free bytes).trans (sameDirectories_spend disk)
  | refused => exact sameDirectories_spend disk

/-- Two paths lead to the same location. -/
def SamePlace (disk : Disk) (first second : String) : Prop :=
  ∃ location, disk.locate first = some location ∧ disk.locate second = some location

/-- Which paths lead to the same location depends on the directories only. -/
theorem SameDirectories.samePlace_iff {first second : Disk} (same : SameDirectories first second)
    (path other : String) : first.SamePlace path other ↔ second.SamePlace path other := by
  simp only [SamePlace, same.locate_eq]

/-- A file that was written stands at the end of its path. -/
theorem samePlace_self_of_written (success : disk.write path bytes = (true, after)) :
    disk.SamePlace path path := by
  have outcome := written disk path bytes
  rw [success] at outcome
  cases outcome with
  | @done location here free => exact ⟨location, here, here⟩

/-- After a write that succeeds, paths that lead to its location lead to the new file. -/
theorem at?_of_written_of_samePlace (success : disk.write path bytes = (true, after))
    {other : String} (same : disk.SamePlace other path) : after.at? other = some (.file bytes) := by
  have directories := sameDirectories_of_write success
  have outcome := written disk path bytes
  rw [success] at outcome
  obtain ⟨location, there, here⟩ := same
  cases outcome with
  | @done place found free =>
    have equal : place = location := Option.some.inj (found.symm.trans here)
    have below : place ≠ [] := by
      rintro rfl
      simp [canHold] at free
    rw [at?, directories.locate_eq, there, Option.bind_some, node?_put below, if_pos equal.symm]

/-- **A write touches nothing else.**  After a write that succeeds, paths that lead elsewhere lead
to what they led to before. -/
theorem at?_of_written_of_not_samePlace (success : disk.write path bytes = (true, after))
    {other : String} (apart : ¬ disk.SamePlace other path) : after.at? other = disk.at? other := by
  have directories := sameDirectories_of_write success
  have outcome := written disk path bytes
  rw [success] at outcome
  cases outcome with
  | @done place here free =>
    have below : place ≠ [] := by
      rintro rfl
      simp [canHold] at free
    rw [at?, directories.locate_eq, at?]
    cases there : disk.locate other with
    | none => rfl
    | some location =>
      have elsewhere : location ≠ place := by
        rintro rfl
        exact apart ⟨location, there, here⟩
      rw [Option.bind_some, Option.bind_some, node?_put below, if_neg elsewhere]
      rfl

/-- A path that leads to something leads to some location. -/
theorem samePlace_self_of_at? {node : DiskNode} (found : disk.at? path = some node) :
    disk.SamePlace path path := by
  obtain ⟨location, here, _⟩ := Option.bind_eq_some_iff.mp found
  exact ⟨location, here, here⟩

/-- What is read from a path is the file that it leads to. -/
theorem read?_eq_of_at? (found : disk.at? path = some (.file bytes)) :
    disk.read? path = some bytes := by
  rw [at?] at found
  rw [read?]
  cases here : disk.locate path with
  | none => simp [here] at found
  | some location =>
    rw [here, Option.bind_some] at found
    rw [Option.bind_some, bytesAt?, found]

/-- What is read from a path is the file that stands there. -/
theorem at?_eq_of_read? (found : disk.read? path = some bytes) :
    disk.at? path = some (.file bytes) := by
  obtain ⟨location, here, held⟩ := Option.bind_eq_some_iff.mp found
  rw [at?, here, Option.bind_some]
  rw [bytesAt?] at held
  split at held
  · next file =>
    cases held
    exact file
  · cases held

/-! ## Paths that can be written -/

/-- A file can be put at the end of a path, now and at any later time: there is place for it, and the
disk refuses none of the next writes. -/
structure Writable (disk : Disk) (path : String) : Prop where
  place : ∃ location, disk.locate path = some location ∧ disk.canHold location = true
  unrefused : true ∉ disk.refusals

/-- Where a file can be put depends on the directories only. -/
theorem SameDirectories.canHold_eq {first second : Disk} (same : SameDirectories first second)
    (location : Location) : first.canHold location = second.canHold location := by
  simp only [canHold, same.isDirectoryAt]

/-- There is as much place for a file on a disk with the same directories. -/
theorem SameDirectories.place {first second : Disk} (same : SameDirectories first second)
    (there : ∃ location, second.locate path = some location ∧ second.canHold location = true) :
    ∃ location, first.locate path = some location ∧ first.canHold location = true := by
  obtain ⟨location, here, free⟩ := there
  exact ⟨location, (same.locate_eq path).trans here, (same.canHold_eq location).trans free⟩

/-- An attempt to write uses up one of the refusals, whether it succeeds or not. -/
theorem refusals_of_write {success : Bool} (run : disk.write path bytes = (success, after)) :
    after.refusals = disk.refusals.drop 1 := by
  have outcome := written disk path bytes
  rw [run] at outcome
  cases outcome <;> rfl

/-- A path that a file was written to can be written again. -/
theorem writable_of_written (success : disk.write path bytes = (true, after))
    (unrefused : true ∉ after.refusals) : after.Writable path := by
  refine ⟨(sameDirectories_of_write success).place ?_, unrefused⟩
  have outcome := written disk path bytes
  rw [success] at outcome
  cases outcome with
  | @done location here free => exact ⟨location, here, free⟩

/-- A path that can be written still can be after any write. -/
theorem Writable.of_write (writable : disk.Writable path) {other : String} {success : Bool}
    (run : disk.write other bytes = (success, after)) : after.Writable path := by
  refine ⟨(sameDirectories_of_write run).place writable.place, ?_⟩
  rw [refusals_of_write run]
  exact fun refused => writable.unrefused (List.mem_of_mem_drop refused)

/-- A write succeeds if there is place for it and it is not refused. -/
theorem exists_written (bytes : ByteArray) (unrefused : disk.refusals[0]? ≠ some true)
    (place : ∃ location, disk.locate path = some location ∧ disk.canHold location = true) :
    ∃ after, disk.write path bytes = (true, after) := by
  obtain ⟨location, here, free⟩ := place
  have accepted : disk.refuses = false := by
    rw [refuses, List.head?_eq_getElem?, decide_eq_false_iff_not]
    exact unrefused
  refine ⟨disk.spend.put location (.file bytes), ?_⟩
  simp [write, here, accepted, free]

/-- A write to a path that can be written does not fail. -/
theorem Writable.not_refused (writable : disk.Writable path) :
    disk.write path bytes ≠ (false, after) := by
  have unrefused : disk.refusals[0]? ≠ some true := fun first =>
    writable.unrefused (List.mem_of_getElem? first)
  obtain ⟨next, success⟩ := exists_written bytes unrefused writable.place
  rw [success]
  exact fun failed => absurd (congrArg Prod.fst failed) (by simp)

/-! ## Several writes to a path -/

/-- A file can be written to a path some times in a row: there is place for it, and the disk refuses none
of these writes. -/
def AcceptsWrites (disk : Disk) (path : String) (count : Nat) : Prop :=
  ∀ index < count, disk.refusals[index]? ≠ some true ∧
    ∃ location, disk.locate path = some location ∧ disk.canHold location = true

/-- A write that succeeds was not refused, and there was place for it. -/
theorem unrefused_of_written (success : disk.write path bytes = (true, after)) :
    disk.refusals[0]? ≠ some true ∧
      ∃ location, disk.locate path = some location ∧ disk.canHold location = true := by
  unfold write at success
  split at success
  · cases success
  · next location here =>
    split at success
    · cases success
    · next accepted =>
      rw [Bool.not_eq_true, Bool.or_eq_false_iff, Bool.not_eq_false', refuses,
        List.head?_eq_getElem?, decide_eq_false_iff_not] at accepted
      exact ⟨accepted.1, location, here, accepted.2⟩

/-- **After a write that succeeds there can be one write less.** -/
theorem acceptsWrites_succ_iff (success : disk.write path bytes = (true, after)) {count : Nat} :
    disk.AcceptsWrites path (count + 1) ↔ after.AcceptsWrites path count := by
  have next (index : Nat) : after.refusals[index]? = disk.refusals[index + 1]? := by
    rw [refusals_of_write success, List.getElem?_drop, Nat.add_comm]
  obtain ⟨unrefused, place⟩ := unrefused_of_written success
  constructor
  · intro accepts index below
    rw [next]
    exact ⟨(accepts (index + 1) (Nat.succ_lt_succ below)).1,
      (sameDirectories_of_write success).place place⟩
  · intro later index below
    refine ⟨?_, place⟩
    cases index with
    | zero => exact unrefused
    | succ index =>
      rw [← next]
      exact (later index (Nat.lt_of_succ_lt_succ below)).1

/-- Before a write that fails there can be none. -/
theorem not_acceptsWrites_of_refused (refused : disk.write path bytes = (false, after))
    (count : Nat) : ¬ disk.AcceptsWrites path (count + 1) := by
  intro accepts
  obtain ⟨unrefused, place⟩ := accepts 0 (Nat.succ_pos count)
  obtain ⟨next, success⟩ := exists_written bytes unrefused place
  rw [refused] at success
  exact absurd (congrArg Prod.fst success) Bool.false_ne_true

end Orthography.Disk
