import Orthography.Proofs.Lexicon.Glossary

/-!
# A lexicon in files replies like one in memory

A lexicon that is loaded from an empty directory and a lexicon without files give the same replies to
the same requests, but for the identifiers of entries, and both reply like a glossary
(`Store.replies_from_empty`).

Both lexicons mirror the empty glossary at the start (`Lexicon.mirrors_of_load`,
`Lexicon.mirrors_inMemory`), and go on to mirror the same one as long as no reply is a failure.  A
lexicon without files writes nothing, so that it never fails (`Lexicon.not_isFailure_of_unfiled`).  A
lexicon in files does not fail while its files can be written (`Store.Writable`), and they can be
written at any later time if they could be when it was loaded and nobody else writes to them.
-/

namespace Orthography

set_option autoImplicit false

open Lexicon (SavedAll directory load backingPaths? inMemory)

/-! ## Stores whose files can be written -/

namespace Store

/-- No request changes the paths of the files. -/
theorem paths_ask (store : Store) (request : Request) :
    (store.ask request).2.lexicon.paths = store.lexicon.paths := by
  cases request with
  | define word level =>
    obtain ⟨change, -, paths, reply⟩ := store.exists_defined word level
    rw [reply]
    exact paths
  | remove word =>
    obtain ⟨change, -, paths, reply⟩ := store.exists_removed word
    rw [reply]
    exact paths
  | get | contains | size | entries | entriesAt => rfl

/-- All files of a lexicon can be written, now and at any later time. -/
def Writable (store : Store) : Prop :=
  ∀ path ∈ store.lexicon.paths, store.world.disk.Writable path

/-- Writing files, one after the other, keeps a path writable. -/
theorem writable_of_savedAll {disk after : Disk} {files : List BackingFile}
    (saves : SavedAll disk files after) {path : String} (writable : disk.Writable path) :
    after.Writable path := by
  induction saves with
  | nil => exact writable
  | cons written others ih => exact ih (writable.of_write written)

variable {store : Store}

/-- A definition in files that can be written does not fail, and leaves the paths writable. -/
theorem Writable.defined (writable : store.Writable) {word : String} {level : Level}
    {change : Lexicon.Change Bool}
    (outcome : Lexicon.Defined store.lexicon store.world word level change) :
    change.result.isOk = true ∧
      ∀ path ∈ store.lexicon.paths, change.world.disk.Writable path := by
  cases outcome with
  | known => exact ⟨rfl, writable⟩
  | inMemory => exact ⟨rfl, writable⟩
  | saved _ _ _ written => exact ⟨rfl, fun path member => (writable path member).of_write written⟩
  | @failed position file disk _ _ primary refused =>
    have inside := List.mem_of_getElem? (Lexicon.getElem?_of_primaryFile? primary).2
    exact absurd refused (writable file.path (List.mem_map_of_mem inside)).not_refused

/-- A removal from files that can be written does not fail, and leaves the paths writable. -/
theorem Writable.removed (writable : store.Writable) {word : String}
    {change : Lexicon.Change Nat}
    (outcome : Lexicon.Removed store.lexicon store.world word change) :
    change.result.isOk = true ∧
      ∀ path ∈ store.lexicon.paths, change.world.disk.Writable path := by
  cases outcome with
  | unknown => exact ⟨rfl, writable⟩
  | done _ saves =>
    exact ⟨rfl, fun path member => writable_of_savedAll saves (writable path member)⟩
  | @failed entry before after file disk refused _ split _ saves refusal =>
    have inside : file ∈ store.lexicon.files := by
      rw [split]
      exact List.mem_append_right _ List.mem_cons_self
    have still := writable_of_savedAll saves (writable file.path (List.mem_map_of_mem inside))
    exact absurd refusal still.not_refused

/-- **A request to a store that can be written does not fail**, and the store can be written
afterwards. -/
theorem Writable.ask (writable : store.Writable) (request : Request) :
    (store.ask request).1.isFailure = false ∧ (store.ask request).2.Writable := by
  have paths := store.paths_ask request
  rw [Writable, paths]
  cases request with
  | define word level =>
    obtain ⟨change, outcome, -, reply⟩ := store.exists_defined word level
    obtain ⟨fine, still⟩ := writable.defined outcome
    rw [reply]
    exact ⟨Reply.isFailure_ofResult (fun _ => rfl) fine, still⟩
  | remove word =>
    obtain ⟨change, outcome, -, reply⟩ := store.exists_removed word
    obtain ⟨fine, still⟩ := writable.removed outcome
    rw [reply]
    exact ⟨Reply.isFailure_ofResult (fun _ => rfl) fine, still⟩
  | get | contains | size | entries | entriesAt => exact ⟨rfl, writable⟩

/-- So it is with any requests that are made one after the other. -/
theorem Writable.replies (writable : store.Writable) (requests : List Request) :
    ∀ reply ∈ store.replies requests, reply.isFailure = false := by
  induction requests generalizing store with
  | nil => exact fun _ impossible => nomatch impossible
  | cons request rest ih =>
    obtain ⟨fine, still⟩ := writable.ask request
    intro reply member
    rcases List.mem_cons.mp member with rfl | later
    · exact fine
    · exact ih still reply later

/-- Requests that are made one after the other are requests in worlds of their own. -/
theorem exists_replies_eq (store : Store) (requests : List Request) :
    ∃ placed : List (World × Request), placed.map Prod.snd = requests ∧
      store.lexicon.replies placed = store.replies requests := by
  induction requests generalizing store with
  | nil => exact ⟨[], rfl, rfl⟩
  | cons request rest ih =>
    obtain ⟨placed, same, replies⟩ := ih (store.ask request).2
    refine ⟨(store.world, request) :: placed, by rw [List.map_cons, same], ?_⟩
    exact congrArg (List.cons _) replies

end Store

namespace Lexicon

/-! ## Without files -/

/-- A lexicon without files never fails, in whichever worlds it is asked. -/
theorem not_isFailure_of_unfiled {lexicon : Lexicon} (unfiled : lexicon.paths = [])
    (requests : List (World × Request)) :
    ∀ reply ∈ lexicon.replies requests, reply.isFailure = false := by
  induction requests generalizing lexicon with
  | nil => exact fun _ impossible => nomatch impossible
  | cons step rest ih =>
    obtain ⟨world, request⟩ := step
    have writable : (Store.mk lexicon world).Writable := by
      intro path member
      rw [unfiled] at member
      cases member
    have paths := (Store.mk lexicon world).paths_ask request
    intro reply member
    rcases List.mem_cons.mp member with rfl | later
    · exact (writable.ask request).1
    · exact ih (paths.trans unfiled) reply later

/-- An empty lexicon without files mirrors the empty glossary. -/
theorem mirrors_inMemory : Mirrors inMemory KeyMap.empty :=
  ⟨fun _ => rfl, fun _ => Nat.le_refl 0⟩

/-! ## From an empty directory -/

/-- There is nothing to load from a directory, once it is there. -/
def Vacant (disk : Disk) (directory : String) : Prop :=
  backingPaths? (disk.ensureDirectory directory).2 directory = some []

/-- An empty directory is vacant. -/
theorem vacant_of_empty {disk : Disk} {directory : String} (location : Location)
    (there : disk.isDirectory directory = true) (here : disk.locate directory = some location)
    (empty : disk.children location = []) : Vacant disk directory := by
  rw [Vacant, Disk.ensureDirectory_of_isDirectory there]
  simp only [backingPaths?, here, empty, List.filter_nil, List.map_nil]

variable {world after : World} {dataDirectory : String} {language : Option String} {base : Lexicon}

/-- What is loaded from a vacant directory is one file without entries, which has just been
written. -/
theorem exists_attach_of_load (loaded : load world dataDirectory language = (.ok base, after))
    (vacant : Vacant world.disk (directory dataDirectory language)) :
    ∃ path before, (BackingFile.mk path []).save before = (true, after.disk) ∧
      base = inMemory.attach ⟨path, []⟩ := by
  obtain ⟨paths, files, run, read, -, rfl⟩ := files_of_load loaded
  have outcome := prepared world.disk (directory dataDirectory language)
  rw [run] at outcome
  cases outcome with
  | listed made found filled =>
    rw [Vacant, made, found, Option.some.injEq] at vacant
    exact absurd vacant filled
  | @created empty _ made none written =>
    have here := Disk.at?_of_written_of_samePlace written (Disk.samePlace_self_of_written written)
    have decoded (supply : Supply) : Entry.ofFile? (Entry.fileText []).toUTF8 supply
        = some ([], supply) :=
      Entry.ofFile?_fileText (fun _ impossible => absurd impossible List.not_mem_nil)
        (fun _ impossible => absurd impossible List.not_mem_nil) supply
    have reads : (BackingFile.mk (Path.join (directory dataDirectory language)
        BackingFile.defaultName) []).ReadsFrom after.disk := ⟨_, here, decoded⟩
    have alone := readFiles_of_readsFrom (List.forall_mem_singleton.mpr reads) world.supply
    obtain ⟨same, -⟩ := Prod.mk.inj (Except.ok.inj (read.symm.trans alone))
    exact ⟨_, empty, written, by rw [same]; rfl⟩

/-- A lexicon that is loaded from a vacant directory mirrors the empty glossary. -/
theorem mirrors_of_load (loaded : load world dataDirectory language = (.ok base, after))
    (vacant : Vacant world.disk (directory dataDirectory language)) :
    Mirrors base KeyMap.empty := by
  obtain ⟨path, before, -, rfl⟩ := exists_attach_of_load loaded vacant
  exact ⟨fun _ => rfl, fun _ => Nat.le_refl 0⟩

/-- It can be written as long as no write is refused. -/
theorem writable_of_load (loaded : load world dataDirectory language = (.ok base, after))
    (vacant : Vacant world.disk (directory dataDirectory language))
    (unrefused : true ∉ after.disk.refusals) : (Store.mk base after).Writable := by
  obtain ⟨path, before, written, rfl⟩ := exists_attach_of_load loaded vacant
  intro other member
  rw [List.mem_singleton.mp member]
  exact Disk.writable_of_written written unrefused

end Lexicon

namespace Store

open Lexicon (Vacant)

/-- **A lexicon in files replies like one in memory.**  A lexicon is loaded from a directory without
any files to load, and another one has no files.  Both are asked the same, one request after the
other, and replies are compared without the identifiers of entries.

* The lexicon in memory replies like a glossary, whatever happens around it.
* As long as the disk refuses no write and nobody else writes to it, the lexicon in files gives the
  same replies.
* Whatever else happens to the disk between the requests, it gives the same replies as long as none of
  them is a failure, so that every write that is tried has succeeded. -/
theorem replies_from_empty {world after : World} {dataDirectory : String}
    {language : Option String} {base : Lexicon}
    (loaded : load world dataDirectory language = (.ok base, after))
    (vacant : Vacant world.disk (directory dataDirectory language))
    (asked : List (World × Request)) :
    let requests := asked.map Prod.snd
    let remembered := (inMemory.replies asked).map (Reply.map Entry.anonymous)
    remembered = (Glossary.replies KeyMap.empty requests).map (Reply.map Entry.bare) ∧
      (true ∉ after.disk.refusals →
        ((Store.mk base after).replies requests).map (Reply.map Entry.anonymous) = remembered) ∧
      (∀ placed : List (World × Request), placed.map Prod.snd = requests →
        (∀ reply ∈ base.replies placed, reply.isFailure = false) →
          (base.replies placed).map (Reply.map Entry.anonymous) = remembered) := by
  intro requests remembered
  have memory : remembered
      = (Glossary.replies KeyMap.empty requests).map (Reply.map Entry.bare) :=
    Lexicon.mirrors_inMemory.replies (Lexicon.not_isFailure_of_unfiled rfl asked)
  have inFiles (placed : List (World × Request)) (same : placed.map Prod.snd = requests)
      (fine : ∀ reply ∈ base.replies placed, reply.isFailure = false) :
      (base.replies placed).map (Reply.map Entry.anonymous) = remembered := by
    rw [(Lexicon.mirrors_of_load loaded vacant).replies fine, same, memory]
  refine ⟨memory, fun unrefused => ?_, inFiles⟩
  have fine := (Lexicon.writable_of_load loaded vacant unrefused).replies requests
  obtain ⟨placed, same, replies⟩ := exists_replies_eq (Store.mk base after) requests
  rw [← replies] at fine ⊢
  exact inFiles placed same fine

/-- A disk with an empty directory. -/
def emptyWords : Disk :=
  { nodes := [(["words"], .directory)] }

/-- Words are added in several spellings, asked for, taken out and added again. -/
def someRequests : List Request :=
  [.define "Grace!" .verified, .define "grace" .unverified, .define "?!" .verified,
    .define "Peace" .unverified, .get "GRACE", .entriesAt [.unverified], .remove "grace",
    .contains "Grace", .remove "grace", .define "(grace)" .verifiedAuto, .entries, .size]

/-- What a glossary replies to them. -/
def someReplies : List (Reply (String × Level)) :=
  [.added true, .added false, .added false, .added true, .found (some ("Grace", .verified)),
    .listed [("Peace", .unverified)], .removed 1, .known false, .removed 0, .added true,
    .listed [("grace", .verifiedAuto), ("Peace", .unverified)], .counted 2]

/-- A lexicon from the empty directory and one in memory give these replies, the one in files also if
every request finds the disk as it was loaded from. -/
theorem replies_from_empty_words :
    ∃ base after, load ⟨emptyWords, ⟨0⟩⟩ "words" none = (.ok base, after) ∧
      Vacant emptyWords (directory "words" none) ∧ true ∉ after.disk.refusals ∧
      let asked := someRequests.map fun request => (after, request)
      let expected := someReplies.map (Reply.map Entry.bare)
      (∀ reply ∈ base.replies asked, reply.isFailure = false) ∧
        (inMemory.replies asked).map (Reply.map Entry.anonymous) = expected ∧
        ((Store.mk base after).replies someRequests).map (Reply.map Entry.anonymous) = expected ∧
        (base.replies asked).map (Reply.map Entry.anonymous) = expected := by
  have passes : loadsWith ⟨emptyWords, ⟨0⟩⟩ "words" (fun store =>
      decide (true ∉ store.world.disk.refusals) &&
        (store.lexicon.replies (someRequests.map fun request => (store.world, request))).all
          fun reply => !reply.isFailure) = true := by decide +kernel
  obtain ⟨base, after, loaded, passed⟩ := exists_load_of_loadsWith passes
  simp only [Bool.and_eq_true, decide_eq_true_eq, List.all_eq_true, Bool.not_eq_true'] at passed
  obtain ⟨unrefused, fine⟩ := passed
  have vacant : Vacant emptyWords (directory "words" none) :=
    Lexicon.vacant_of_empty ["words"] (by decide +kernel) (by decide +kernel) (by decide +kernel)
  have told : Glossary.replies KeyMap.empty someRequests = someReplies := rfl
  have requests : (someRequests.map fun request => (after, request)).map Prod.snd = someRequests := by
    rw [List.map_map]
    exact List.map_id someRequests
  obtain ⟨remembered, inFiles, anywhere⟩ := replies_from_empty loaded vacant
    (someRequests.map fun request => (after, request))
  rw [requests, told] at remembered
  rw [requests] at inFiles
  exact ⟨base, after, loaded, vacant, unrefused, fine, remembered,
    (inFiles unrefused).trans remembered, (anywhere _ rfl fine).trans remembered⟩

end Store

end Orthography
