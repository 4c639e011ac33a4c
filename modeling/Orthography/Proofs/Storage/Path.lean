import Orthography.Proofs.Storage.Disk

/-!
# Paths below one directory

Two paths are apart when they lead to different locations on every disk (`Path.Apart`).  Paths that
are made of one directory and two different names are apart (`Path.apart_join`), since each leads
right below where the directory does (`Path.locate_join`).
-/

namespace Orthography

set_option autoImplicit false

namespace Path

/-- On no disk do two paths lead to the same location. -/
def Apart (first second : String) : Prop :=
  ∀ disk : Disk, ¬ disk.SamePlace first second

theorem Apart.symm {first second : String} (apart : Apart first second) : Apart second first := by
  rintro disk ⟨location, there, here⟩
  exact apart disk ⟨location, here, there⟩

/-! ## The names of a path -/

/-- A slash separates names. -/
theorem split_append_slash (current front back : List Char) :
    split current (front ++ '/' :: back) = split current front ++ split [] back := by
  induction front generalizing current with
  | nil => simp [split]
  | cons c rest ih =>
    rw [List.cons_append, split, split]
    split
    · rw [ih, List.cons_append]
    · rw [ih]

/-- A text without a slash is one name. -/
theorem split_of_not_mem {current chars : List Char} (plain : '/' ∉ chars) :
    split current chars = [String.ofList (current.reverse ++ chars)] := by
  induction chars generalizing current with
  | nil => simp [split]
  | cons c rest ih =>
    have other : c ≠ '/' := fun same => plain (same ▸ List.mem_cons_self)
    rw [split, if_neg other, ih fun member => plain (List.mem_cons_of_mem _ member)]
    simp

theorem slash_not_mem_of_isName {name : String} (proper : isName name = true) :
    '/' ∉ name.toList := by
  simp only [isName, Bool.and_eq_true, Bool.not_eq_true', List.contains_eq_mem,
    decide_eq_false_iff_not] at proper
  exact proper.2

theorem ne_empty_of_isName {name : String} (proper : isName name = true) : name ≠ "" := by
  rintro rfl
  exact absurd proper (by decide)

/-- A name is its only name. -/
theorem names_of_isName {name : String} (proper : isName name = true) : names name = [name] := by
  rw [names, split_of_not_mem (slash_not_mem_of_isName proper)]
  simp

/-- A name is no absolute path. -/
theorem startsWith_slash_of_isName {name : String} (proper : isName name = true) :
    name.startsWith "/" = false := by
  rw [String.startsWith_string_eq_false_iff]
  rintro ⟨rest, whole⟩
  refine slash_not_mem_of_isName proper ?_
  rw [← whole]
  exact List.mem_append_left _ (List.mem_singleton.mpr rfl)

/-- A path below a directory has the name that it was joined from as its last one.  The names above
it and where the path starts do not depend on that name: they are those of the directory, but for a
slash at its end. -/
theorem exists_names_join (directory : String) :
    ∃ (above : List String) (absolute : Bool),
      (directory ≠ "" → directory.startsWith "/" = absolute ∧
        (names directory = above ∨ names directory = above ++ [""])) ∧
      ∀ name, isName name = true →
        names (join directory name) = above ++ [name] ∧
          (join directory name).startsWith "/" = absolute ∧ join directory name ≠ "" := by
  by_cases blank : directory = ""
  · refine ⟨[], false, fun some => absurd blank some, ?_⟩
    intro name proper
    have joined : join directory name = name := by
      simp [join, startsWith_slash_of_isName proper, blank]
    rw [joined]
    exact ⟨names_of_isName proper, startsWith_slash_of_isName proper, ne_empty_of_isName proper⟩
  · have some : directory.toList ≠ [] := by simpa using blank
    have starts (rest : String) :
        (directory ++ rest).startsWith "/" = directory.startsWith "/" := by
      rw [Bool.eq_iff_iff, String.startsWith_string_iff, String.startsWith_string_iff,
        String.toList_append]
      cases chars : directory.toList with
      | nil => exact absurd chars some
      | cons c more => simp
    by_cases ends : directory.endsWith "/" = true
    · obtain ⟨stem, whole⟩ : "/".toList <:+ directory.toList := by
        simpa [← String.endsWith_toSlice] using ends
      have slash : "/".toList = ['/'] := rfl
      refine ⟨split [] stem, directory.startsWith "/", fun _ => ⟨rfl, .inr ?_⟩, ?_⟩
      · rw [names, ← whole, slash, split_append_slash]
        rfl
      intro name proper
      have joined : join directory name = directory ++ name := by
        simp only [join, startsWith_slash_of_isName proper, ends, Bool.or_true, if_true]
        rfl
      rw [joined]
      refine ⟨?_, starts name, by simp [blank]⟩
      rw [names, String.toList_append, ← whole, slash, List.append_assoc, List.singleton_append,
        split_append_slash, split_of_not_mem (slash_not_mem_of_isName proper)]
      simp
    · refine ⟨names directory, directory.startsWith "/", fun _ => ⟨rfl, .inl rfl⟩, ?_⟩
      intro name proper
      have joined : join directory name = directory ++ ("/" ++ name) := by
        simp [join, startsWith_slash_of_isName proper, ends, blank, String.append_assoc]
      rw [joined]
      refine ⟨?_, starts _, by simp [blank]⟩
      have slash : "/".toList = ['/'] := rfl
      rw [names, String.toList_append, String.toList_append, slash, List.singleton_append,
        split_append_slash, split_of_not_mem (slash_not_mem_of_isName proper)]
      simp [names]

/-! ## Where paths lead to -/

/-- Names are followed one after the other. -/
theorem follow_append (disk : Disk) (location : Location) (front back : List String) :
    disk.follow location (front ++ back) =
      (disk.follow location front).bind fun place => disk.follow place back := by
  induction front generalizing location with
  | nil => rfl
  | cons name rest ih =>
    rw [List.cons_append, Disk.follow, Disk.follow, ih, ih, ih]
    split
    · rfl
    · split
      · rfl
      · split <;> rfl

/-- A proper name leads from a directory to what is right below it. -/
theorem follow_of_isName {name : String} (proper : isName name = true) (disk : Disk)
    (location : Location) :
    disk.follow location [name] =
      if disk.isDirectoryAt location then some (location ++ [name]) else none := by
  simp only [isName, Bool.and_eq_true, Bool.not_eq_true', decide_eq_true_eq] at proper
  obtain ⟨⟨⟨some, notHere⟩, notUp⟩, -⟩ := proper
  cases directory : disk.isDirectoryAt location with
  | false => simp [Disk.follow, directory]
  | true => simp [Disk.follow, directory, some, notHere, notUp]

/-- An empty name stays in the directory where it starts. -/
theorem follow_blank (disk : Disk) (location : Location) :
    disk.follow location [""] = if disk.isDirectoryAt location then some location else none := by
  cases directory : disk.isDirectoryAt location <;> simp [Disk.follow, directory]

/-- Paths below one directory lead to different locations right below one location. -/
theorem exists_locate_join (disk : Disk) (directory : String) :
    ∃ place : Option Location, ∀ name, isName name = true →
      disk.locate (join directory name) = place.map fun location => location ++ [name] := by
  obtain ⟨above, absolute, -, joined⟩ := exists_names_join directory
  refine ⟨(disk.follow (if absolute then [] else disk.current) above).filter disk.isDirectoryAt, ?_⟩
  intro name proper
  obtain ⟨list, start, some⟩ := joined name proper
  have filled : (join directory name).isEmpty = false := by simpa using some
  rw [Disk.locate, filled, if_neg Bool.false_ne_true, Disk.origin, start, list, follow_append]
  cases disk.follow (if absolute then [] else disk.current) above with
  | none => rfl
  | some location =>
    rw [Option.bind_some, follow_of_isName proper]
    cases found : disk.isDirectoryAt location <;> simp [Option.filter, found]

/-- **A path below a directory leads right below where the directory is.** -/
theorem locate_join {disk : Disk} {directory : String} {location : Location}
    (here : disk.locate directory = some location) {name : String} (proper : isName name = true) :
    disk.locate (join directory name) =
      if disk.isDirectoryAt location then some (location ++ [name]) else none := by
  have filled : directory ≠ "" := by
    rintro rfl
    cases here
  obtain ⟨above, absolute, own, joined⟩ := exists_names_join directory
  obtain ⟨start, list⟩ := own filled
  obtain ⟨below, sameStart, some⟩ := joined name proper
  rw [Disk.locate, if_neg (by simpa using filled), Disk.origin, start] at here
  rw [Disk.locate, if_neg (by simpa using some), Disk.origin, sameStart, below, follow_append]
  rcases list with list | list
  · rw [list] at here
    rw [here, Option.bind_some, follow_of_isName proper]
  · -- The slash at the end has found a directory.
    rw [list, follow_append] at here
    obtain ⟨place, reached, last⟩ := Option.bind_eq_some_iff.mp here
    rw [follow_blank, Option.ite_none_right_eq_some] at last
    obtain ⟨directory, same⟩ := last
    cases same
    rw [reached, Option.bind_some, follow_of_isName proper]

/-- **Different names lead to different locations.** -/
theorem apart_join (directory : String) {first second : String} (properFirst : isName first = true)
    (properSecond : isName second = true) (different : first ≠ second) :
    Apart (join directory first) (join directory second) := by
  rintro disk ⟨location, here, there⟩
  obtain ⟨place, joined⟩ := exists_locate_join disk directory
  rw [joined first properFirst] at here
  rw [joined second properSecond] at there
  obtain ⟨above, found, rfl⟩ := Option.map_eq_some_iff.mp here
  rw [found, Option.map_some, Option.some.injEq] at there
  exact different (List.singleton_inj.mp (List.append_cancel_left there)).symm

end Path

end Orthography
