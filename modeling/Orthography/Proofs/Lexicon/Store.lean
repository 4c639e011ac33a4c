import Orthography.Proofs.Lexicon.Rollback

/-!
# Stores

A store is a lexicon with the world that it is kept in.  Its calls are made one after the other, each
in the world that the one before it left, so that nobody else writes to its files (`Store.perform`,
`Store.afterCalls`).  Writes may be refused; which of them are is part of the world.

What a call does to the disk is said in two steps.  No call makes or removes a file
(`Store.sameShape_perform`).  And what stands for a file of the lexicon after a call is what stood
for it before, or the file itself, or the file without the entries with some key, if a failed removal
could not put it back (`Store.standing_perform`).
-/

namespace Orthography

set_option autoImplicit false

open Lexicon (Call Filed SavedAll AllApart holders resave)

/-- A lexicon and the world that it is kept in. -/
structure Store where
  lexicon : Lexicon
  world : World

namespace Store

/-- The store after a call. -/
def perform (store : Store) : Call → Store
  | .define word level =>
    let change := store.lexicon.define store.world word level
    ⟨change.lexicon, change.world⟩
  | .remove word =>
    let change := store.lexicon.remove store.world word
    ⟨change.lexicon, change.world⟩

/-- The paths of files that a call has written and could not put back. -/
def unrestored (store : Store) : Call → List String
  | .define word level => (store.lexicon.define store.world word level).unrestored
  | .remove word => (store.lexicon.remove store.world word).unrestored

/-- The store after some calls, each made on what the one before it left. -/
def afterCalls (store : Store) : List Call → Store
  | [] => store
  | call :: rest => (store.perform call).afterCalls rest

/-- The paths of files that some calls have written and could not put back. -/
def unrestoredAll (store : Store) : List Call → List String
  | [] => []
  | call :: rest => store.unrestored call ++ (store.perform call).unrestoredAll rest

theorem lexicon_perform (store : Store) (call : Call) :
    (store.perform call).lexicon = store.lexicon.perform store.world call := by
  cases call <;> simp only [perform, Lexicon.perform]

/-! ## Calls keep the shape of the disk -/

/-- Writing over files, one after the other, keeps the shape of the disk. -/
theorem sameShape_of_savedAll {disk after : Disk} {files : List BackingFile}
    (saves : SavedAll disk files after)
    (areFiles : ∀ file ∈ files, (disk.read? file.path).isSome = true) :
    Disk.SameShape after disk := by
  induction saves with
  | nil disk => exact .refl disk
  | @cons disk next after file rest written others ih =>
    have first : Disk.SameShape next disk :=
      Disk.sameShape_of_write written (areFiles file List.mem_cons_self)
    refine (ih fun other member => ?_).trans first
    rw [first.isSome_read?]
    exact areFiles other (List.mem_cons_of_mem _ member)

/-- So does writing files again. -/
theorem sameShape_resave {disk : Disk} {files : List BackingFile}
    (areFiles : ∀ file ∈ files, (disk.read? file.path).isSome = true) :
    Disk.SameShape (resave disk files).1 disk := by
  induction files generalizing disk with
  | nil => exact .refl disk
  | cons file rest ih =>
    rw [resave]
    cases outcome : file.save disk with
    | mk success next =>
      have first : Disk.SameShape next disk :=
        Disk.sameShape_of_write outcome (areFiles file List.mem_cons_self)
      refine (ih fun other member => ?_).trans first
      rw [first.isSome_read?]
      exact areFiles other (List.mem_cons_of_mem _ member)

/-- No call makes or removes a file or a directory, if all files of the lexicon are there. -/
theorem sameShape_perform {store : Store}
    (areFiles : ∀ file ∈ store.lexicon.files, (store.world.disk.read? file.path).isSome = true)
    (call : Call) : Disk.SameShape (store.perform call).world.disk store.world.disk := by
  cases call with
  | define word level =>
    have outcome := Lexicon.defined store.lexicon store.world word level
    rw [perform]
    generalize store.lexicon.define store.world word level = change at outcome ⊢
    cases outcome with
    | known => exact .refl _
    | inMemory => exact .refl _
    | @saved _ file _ _ _ chosen written =>
      have here := List.mem_of_getElem? (Lexicon.getElem?_of_primaryFile? chosen).2
      exact Disk.sameShape_of_write written (areFiles file here)
    | @failed _ file _ _ _ chosen refused =>
      have here := List.mem_of_getElem? (Lexicon.getElem?_of_primaryFile? chosen).2
      exact Disk.sameShape_of_write refused (areFiles file here)
  | remove word =>
    have outcome := Lexicon.removed store.lexicon store.world word
    rw [perform]
    generalize store.lexicon.remove store.world word = change at outcome ⊢
    cases outcome with
    | unknown => exact .refl _
    | done _ saves =>
      refine sameShape_of_savedAll saves fun swept member => ?_
      obtain ⟨file, holder, rfl⟩ := List.mem_map.mp member
      exact areFiles file (List.mem_filter.mp holder).1
    | @failed _ before after file disk refused _ split _ saves refusal =>
      have earlier : ∀ other ∈ holders (Word.key word) before, other ∈ store.lexicon.files := by
        intro other holder
        rw [split]
        exact List.mem_append_left _ (List.mem_filter.mp holder).1
      have stopped : file ∈ store.lexicon.files := by
        rw [split]
        exact List.mem_append_right _ List.mem_cons_self
      have swept : Disk.SameShape disk store.world.disk := by
        refine sameShape_of_savedAll saves fun swept member => ?_
        obtain ⟨other, holder, rfl⟩ := List.mem_map.mp member
        exact areFiles other (earlier other holder)
      have spent : Disk.SameShape refused store.world.disk := by
        refine (Disk.sameShape_of_write refusal ?_).trans swept
        exact (swept.isSome_read? file.path).trans (areFiles file stopped)
      refine (sameShape_resave fun other member => ?_).trans spent
      rw [spent.isSome_read?]
      exact areFiles other (earlier other (List.mem_reverse.mp member))

/-! ## What stands for a file -/

/-- What stands on the disk for a file of a lexicon after a call. -/
inductive Standing (files : List BackingFile) (disk after : Disk) (unrestored : List String)
    (file : BackingFile) : Prop where
  /-- The file and what stands for it are as they were. -/
  | kept (known : file ∈ files) (same : after.at? file.path = disk.at? file.path)
  | written (here : after.at? file.path = some (.file file.bytes))
  /-- The file is as it was, but it was written without the entries with a key and could not be put
  back. -/
  | lost (known : file ∈ files) (reported : file.path ∈ unrestored) {key : String}
      (here : after.at? file.path = some (.file (file.without key).bytes))

variable {lexicon : Lexicon} {world : World} {word : String} {level : Level}

theorem standing_of_defined (filed : Filed lexicon) {change : Lexicon.Change Bool}
    (outcome : Lexicon.Defined lexicon world word level change) :
    ∀ file ∈ change.lexicon.files,
      Standing lexicon.files world.disk change.world.disk change.unrestored file := by
  cases outcome with
  | known => exact fun file member => .kept member rfl
  | inMemory => exact fun file member => .kept member rfl
  | failed _ _ _ refused =>
    refine fun file member => .kept member ?_
    rw [Disk.eq_spend_of_refused refused, Disk.at?_spend]
  | @saved position file disk _ _ chosen written =>
    obtain ⟨before, after, split, replaced⟩ :=
      Lexicon.exists_split (Lexicon.getElem?_of_primaryFile? chosen).2
    have apart := Lexicon.allApart_of_pairwise filed.apart
    rw [split] at apart
    obtain ⟨-, back, across⟩ := List.pairwise_append.mp apart
    -- The other files are not touched by the write.
    have others {other : BackingFile} (away : Path.Apart other.path file.path) :
        disk.at? other.path = world.disk.at? other.path :=
      Disk.at?_of_written_of_not_samePlace written (away world.disk)
    intro other member
    simp only [replaced, List.mem_append, List.mem_cons] at member
    rw [split]
    rcases member with earlier | rfl | later
    · exact .kept (List.mem_append_left _ earlier)
        (others (across other earlier file List.mem_cons_self))
    · exact .written (Disk.at?_of_written_of_samePlace written
        (Disk.samePlace_self_of_written written))
    · exact .kept (List.mem_append_right _ (List.mem_cons_of_mem _ later))
        (others ((List.pairwise_cons.mp back).1 other later).symm)

theorem standing_of_removed (filed : Filed lexicon) {change : Lexicon.Change Nat}
    (outcome : Lexicon.Removed lexicon world word change) :
    ∀ file ∈ change.lexicon.files,
      Standing lexicon.files world.disk change.world.disk change.unrestored file := by
  have apart := Lexicon.allApart_of_pairwise filed.apart
  cases outcome with
  | unknown => exact fun file member => .kept member rfl
  | @done entry disk present saves =>
    intro swept member
    obtain ⟨file, known, rfl⟩ := List.mem_map.mp member
    cases holds : file.holds (Word.key word) with
    | true =>
      exact .written (saves.at?_of_mem
        ((AllApart.holders apart (Word.key word)).map_without (Word.key word))
        (List.mem_map_of_mem (List.mem_filter.mpr ⟨known, holds⟩)))
    | false =>
      rw [BackingFile.without_of_not_holds holds]
      refine .kept known (saves.at?_of_not_samePlace fun other inside => ?_)
      obtain ⟨holder, held, rfl⟩ := List.mem_map.mp inside
      obtain ⟨there, holderHolds⟩ := List.mem_filter.mp held
      exact apart.apart_of_holds known there holds holderHolds world.disk
  | @failed entry before after file disk refused present split holds saves refusal =>
    rw [split] at apart
    have back := Lexicon.rolledBack apart saves refusal
    intro other member
    have inside : other ∈ before ++ file :: after := split ▸ member
    by_cases holder : other ∈ holders (Word.key word) before
    · by_cases reported :
        other.path ∈ (resave refused (holders (Word.key word) before).reverse).2
      · exact .lost member reported (back.lost other holder reported)
      · exact .written (back.restored other holder reported)
    · refine .kept member (back.kept other inside ?_)
      rcases List.mem_append.mp inside with earlier | later
      · refine .inr ?_
        cases held : other.holds (Word.key word) with
        | true => exact absurd (List.mem_filter.mpr ⟨earlier, held⟩) holder
        | false => rfl
      · exact .inl later

/-- **What stands for a file after a call.** -/
theorem standing_perform {store : Store} (filed : Filed store.lexicon) (call : Call) :
    ∀ file ∈ (store.perform call).lexicon.files,
      Standing store.lexicon.files store.world.disk (store.perform call).world.disk
        (store.unrestored call) file := by
  cases call with
  | define word level =>
    have outcome := Lexicon.defined store.lexicon store.world word level
    rw [perform, unrestored]
    generalize store.lexicon.define store.world word level = change at outcome ⊢
    exact standing_of_defined filed outcome
  | remove word =>
    have outcome := Lexicon.removed store.lexicon store.world word
    rw [perform, unrestored]
    generalize store.lexicon.remove store.world word = change at outcome ⊢
    exact standing_of_removed filed outcome

end Store

end Orthography
