import Mathlib.Data.List.Nodup
import Orthography.Toml.Reader

/-!
# The keys of a document

No key of a TOML document comes twice (`Toml.distinct_ofText?`), so that a value that is found under a
key is the only one.  This is about the keys of the document itself, not those of the tables in it.

**Invariant.**  While a document is read, no key comes twice among the tables that are complete, nor
in the current table as long as this is the document (`Toml.Draft.Distinct`).  A header starts a
table with a name, and what is in that table is put under its name later.
-/

namespace Orthography.Toml

set_option autoImplicit false

/-- No key of a table comes twice. -/
def Distinct (entries : Entries) : Prop :=
  (entries.map Prod.fst).Nodup

theorem distinct_nil : Distinct [] :=
  List.nodup_nil

/-! ## Changes of a table -/

/-- A key is not found when it has no entry. -/
theorem lookup_eq_none_iff {key : String} {entries : Entries} :
    entries.lookup key = none ↔ key ∉ entries.map Prod.fst := by
  rw [List.lookup_eq_none_iff]
  simp only [List.mem_map, not_exists, not_and, bne_iff_ne, ne_comm, ne_eq]

/-- Replacing the value of a key leaves the keys as they are. -/
theorem keys_setEntry (key : String) (value : Value) (entries : Entries) :
    (setEntry key value entries).map Prod.fst = entries.map Prod.fst := by
  induction entries with
  | nil => rfl
  | cons entry rest ih =>
    obtain ⟨other, held⟩ := entry
    rw [setEntry]
    split
    · next same => rw [List.map_cons, List.map_cons, same]
    · rw [List.map_cons, List.map_cons, ih]

theorem Distinct.setEntry {entries : Entries} (distinct : Distinct entries) (key : String)
    (value : Value) : Distinct (Toml.setEntry key value entries) := by
  rw [Distinct, keys_setEntry]
  exact distinct

/-- A key that is not found is put at the end. -/
theorem Distinct.concat {entries : Entries} (distinct : Distinct entries) {key : String}
    (absent : entries.lookup key = none) (value : Value) :
    Distinct (entries ++ [(key, value)]) := by
  rw [Distinct, List.map_append, List.map_singleton]
  exact List.nodup_append.mpr ⟨distinct, List.nodup_singleton key, fun other member same single =>
    by
      rw [List.mem_singleton.mp single]
      rintro rfl
      exact lookup_eq_none_iff.mp absent member⟩

/-- A change that makes no key come twice. -/
def KeepsDistinct {α : Type} (change : TableKind → Entries → Option (Entries × α)) : Prop :=
  ∀ kind before after result, change kind before = some (after, result) →
    Distinct before → Distinct after

/-- A change inside a table sets one of its keys, or is a change of the table itself. -/
theorem KeepsDistinct.within {α : Type} {change : TableKind → Entries → Option (Entries × α)}
    (keeps : KeepsDistinct change) (dotted : Bool) (path : List String) :
    KeepsDistinct (within dotted change path) := by
  intro kind before after result run distinct
  cases path with
  | nil => exact keeps kind before after result run distinct
  | cons key rest =>
    rw [Toml.within] at run
    split at run
    · next absent =>
      obtain ⟨inner, -, run⟩ := Option.bind_eq_some_iff.mp run
      cases run
      exact distinct.concat absent _
    · split at run
      · cases run
      · obtain ⟨inner, -, run⟩ := Option.bind_eq_some_iff.mp run
        cases run
        exact distinct.setEntry _ _
    · obtain ⟨inner, -, run⟩ := Option.bind_eq_some_iff.mp run
      cases run
      exact distinct.setEntry _ _
    · cases run

theorem keepsDistinct_addKey (dotted : Bool) (key : String) (value : Value) :
    KeepsDistinct (addKey dotted key value) := by
  intro kind before after result run distinct
  rw [addKey] at run
  split at run
  · cases run
  · next free =>
    cases run
    refine distinct.concat ?_ value
    simp only [Bool.or_eq_true, not_or, Option.not_isSome_iff_eq_none] at free
    exact free.2

namespace Draft

theorem keepsDistinct_placeTable (table : Entries) (key : String) :
    KeepsDistinct (placeTable table key) := by
  intro kind before after result run distinct
  rw [placeTable] at run
  split at run
  · next absent =>
    cases run
    exact distinct.concat absent _
  · cases run
    exact distinct.setEntry _ _
  · cases run
    exact distinct.setEntry _ _
  · cases run

theorem keepsDistinct_placeDouble (table : Entries) (key : String) :
    KeepsDistinct (placeDouble table key) := by
  intro kind before after result run distinct
  rw [placeDouble] at run
  split at run
  · next absent =>
    cases run
    exact distinct.concat absent _
  · cases run
    exact distinct.setEntry _ _
  · cases run

theorem keepsDistinct_openTable (key : String) : KeepsDistinct (openTable key) := by
  intro kind before after result run distinct
  rw [openTable] at run
  split at run
  · cases run
    exact distinct
  · cases run
    exact List.Nodup.sublist (List.filter_sublist.map Prod.fst) distinct
  · cases run

theorem keepsDistinct_openDouble (key : String) : KeepsDistinct (openDouble key) := by
  intro kind before after result run distinct
  rw [openDouble] at run
  split at run
  · cases run
    exact distinct
  · cases run
    exact distinct
  · cases run

/-! ## Reading -/

/-- No key comes twice in what has been read of a document itself. -/
structure Distinct (draft : Draft) : Prop where
  root : Toml.Distinct draft.root
  current : draft.path = [] → Toml.Distinct draft.current

theorem distinct_start : Distinct {} :=
  ⟨distinct_nil, fun _ => distinct_nil⟩

variable {draft after : Draft}

theorem Distinct.add (distinct : draft.Distinct) {path : List String} {key : String}
    {value : Value} (run : draft.add path key value = some after) : after.Distinct := by
  obtain ⟨entries, inserted, run⟩ := Option.bind_eq_some_iff.mp run
  cases run
  refine ⟨distinct.root, fun top => ?_⟩
  obtain ⟨⟨changed, done⟩, within, rfl⟩ := Option.map_eq_some_iff.mp inserted
  exact (keepsDistinct_addKey _ key value).within true path .header _ changed done within
    (distinct.current top)

/-- No key of a complete document comes twice. -/
theorem Distinct.complete (distinct : draft.Distinct) {entries : Entries}
    (run : draft.complete = some entries) : Toml.Distinct entries := by
  unfold Draft.complete at run
  split at run
  · next top =>
    cases run
    exact distinct.current (List.getLast?_eq_none_iff.mp top)
  · next key last =>
    obtain ⟨⟨changed, done⟩, within, rfl⟩ := Option.map_eq_some_iff.mp run
    refine KeepsDistinct.within ?_ false draft.path.dropLast .header _ changed done within
      distinct.root
    split
    · exact keepsDistinct_placeDouble _ key
    · exact keepsDistinct_placeTable _ key

theorem Distinct.startTable (distinct : draft.Distinct) {double : Bool} {path : List String}
    (run : draft.startTable double path = some after) : after.Distinct := by
  obtain ⟨root, complete, run⟩ := Option.bind_eq_some_iff.mp run
  obtain ⟨key, last, run⟩ := Option.bind_eq_some_iff.mp run
  obtain ⟨⟨opened, current⟩, within, run⟩ := Option.bind_eq_some_iff.mp run
  cases run
  refine ⟨?_, fun top => ?_⟩
  · refine KeepsDistinct.within ?_ false path.dropLast .header _ opened current within
      (distinct.complete complete)
    split
    · exact keepsDistinct_openDouble key
    · exact keepsDistinct_openTable key
  · -- The table has a name, so it is not the document.
    change path = [] at top
    rw [top] at last
    cases last

theorem Distinct.readLine (distinct : draft.Distinct) {text rest : List Char}
    (run : readLine draft text = some (after, rest)) : after.Distinct := by
  have header {double : Bool} {text : List Char}
      (run : readHeader draft double text = some (after, rest)) : after.Distinct := by
    obtain ⟨⟨parts, _⟩, _, run⟩ := Option.bind_eq_some_iff.mp run
    obtain ⟨_, _, run⟩ := Option.bind_eq_some_iff.mp run
    have starts : ∃ started, draft.startTable double parts = some started ∧ started = after := by
      cases double with
      | true =>
        obtain ⟨_, _, run⟩ := Option.bind_eq_some_iff.mp run
        obtain ⟨_, _, run⟩ := Option.bind_eq_some_iff.mp run
        obtain ⟨started, start, run⟩ := Option.bind_eq_some_iff.mp run
        exact ⟨started, start, (Prod.mk.inj (Option.some.inj run)).1⟩
      | false =>
        obtain ⟨_, _, run⟩ := Option.bind_eq_some_iff.mp run
        obtain ⟨started, start, run⟩ := Option.bind_eq_some_iff.mp run
        exact ⟨started, start, (Prod.mk.inj (Option.some.inj run)).1⟩
    obtain ⟨started, start, rfl⟩ := starts
    exact distinct.startTable start
  have entry {text : List Char} (run : readEntry draft text = some (after, rest)) :
      after.Distinct := by
    obtain ⟨_, _, run⟩ := Option.bind_eq_some_iff.mp run
    obtain ⟨_, _, run⟩ := Option.bind_eq_some_iff.mp run
    obtain ⟨_, _, run⟩ := Option.bind_eq_some_iff.mp run
    obtain ⟨_, _, run⟩ := Option.bind_eq_some_iff.mp run
    obtain ⟨_, _, run⟩ := Option.bind_eq_some_iff.mp run
    obtain ⟨added, add, run⟩ := Option.bind_eq_some_iff.mp run
    cases run
    exact distinct.add add
  unfold Toml.readLine at run
  split at run
  · exact header run
  · exact header run
  · split at run
    · obtain ⟨_, _, same⟩ := Option.map_eq_some_iff.mp run
      cases same
      exact distinct
    · exact entry run
  · cases run
    exact distinct

theorem Distinct.readLines (distinct : draft.Distinct) {fuel : Nat} {text : List Char}
    (run : readLines fuel draft text = some after) : after.Distinct := by
  induction fuel generalizing draft text with
  | zero =>
    rw [Toml.readLines] at run
    split at run
    · cases run
      exact distinct
    · cases run
  | succ fuel ih =>
    rw [Toml.readLines] at run
    split at run
    · cases run
      exact distinct
    · obtain ⟨⟨next, rest⟩, line, run⟩ := Option.bind_eq_some_iff.mp run
      exact ih (distinct.readLine line) run

end Draft

/-- **No key of a document comes twice.** -/
theorem distinct_ofText? {text : String} {entries : Entries}
    (read : ofText? text = some entries) : Distinct entries := by
  obtain ⟨draft, lines, complete⟩ := Option.bind_eq_some_iff.mp read
  exact (Draft.distinct_start.readLines lines).complete complete

end Orthography.Toml
