import Orthography.Proofs.Json.Depth
import Orthography.Proofs.Lexicon.Reload

/-!
# What is written is read back

The values that the free members of an entry may have are limited by nothing but the reader: the file
as a whole must not be nested too deep.  A file is nested as deep as its entries are, and an entry as
deep as its free members are inside it (`Entry.depth_fileJson_le_iff`, `Entry.depth_json_le_iff`).  So
all entries with sets, maps and whole numbers can be read exactly if the file is shallow enough
(`Entry.readable_iff_of_whole`), and then the file that was written is read as it was
(`BackingFile.readFiles_of_saved`).
-/

namespace Orthography

set_option autoImplicit false

/-- A whole number of 64 bits, with or without a sign. -/
def Json.Number.Whole : Json.Number → Prop
  | .natural n => n < Nat.pow 2 64
  | .negative n => 0 < n ∧ n ≤ Nat.pow 2 63
  | .fraction _ => False

namespace Entry

/-! ## Entries of sets and maps -/

/-- An entry whose links are a set, kept in ascending order, and whose free members are maps, as are
all objects in them. -/
structure Sorted (entry : Entry) : Prop where
  links : entry.links.Pairwise fun first second => first.value < second.value
  metadata : (Json.object entry.metadata).Sorted
  extra : (Json.object entry.extra).Sorted

/-- All numbers in the free members of an entry are whole numbers of 64 bits. -/
def HasWholeNumbers (entry : Entry) : Prop :=
  ∀ n ∈ entry.numbers, n.Whole

variable {entry : Entry}

/-- No such number is a fraction. -/
theorem HasWholeNumbers.whole (numbers : entry.HasWholeNumbers) : entry.Whole :=
  fun x member => numbers (.fraction x) member

/-- Every such number can be read. -/
theorem HasWholeNumbers.inRange (numbers : entry.HasWholeNumbers) :
    ∀ n ∈ entry.numbers, n.InRange := by
  intro n member
  have whole := numbers n member
  cases n with
  | natural n => exact Nat.le_sub_one_of_lt whole
  | negative n => exact whole
  | fraction x => trivial

/-! ## Depth -/

/-- An entry is nested as deep as its free members, inside the object that holds them. -/
theorem depth_json_le_iff (entry : Entry) (bound : Nat) :
    entry.json.depth ≤ bound + 2 ↔
      (Json.object entry.metadata).depth ≤ bound ∧ (Json.object entry.extra).depth ≤ bound + 1 := by
  have depth : entry.json.depth
      = max ((Json.object entry.metadata).depth + 1) (Json.object entry.extra).depth + 1 := by
    have some : 1 ≤ (Json.object entry.extra).depth := by
      rw [Json.depth]
      exact Nat.le_add_left 1 _
    have inner : (Json.object [("extra", .object entry.metadata)]).depth
        = (Json.object entry.metadata).depth + 1 := by
      rw [Json.depth, Json.membersDepth, Json.membersDepth, Nat.max_zero]
    have text (content : String) : (Json.string content).depth = 0 := rfl
    rw [json, Json.depth]
    simp only [Json.membersDepth, identifiers, Json.depth_strings, Json.depth_optional, text, inner]
    omega
  omega

/-- A file is nested as deep as its entries, inside the list and the object that hold them. -/
theorem depth_fileJson_le_iff {entries : List Entry} {bound : Nat} :
    (fileJson entries).depth ≤ bound + 2 ↔ ∀ entry ∈ entries, entry.json.depth ≤ bound := by
  have each := @Json.itemsDepth_le_iff (entries.map json) bound
  rw [List.forall_mem_map] at each
  rw [← each, fileJson, Json.depth, Json.membersDepth, Json.membersDepth, Json.depth]
  omega

/-- **Entries of sets, maps and whole numbers can be read exactly if their file is not nested too
deep.** -/
theorem readable_iff_of_whole {entries : List Entry} (sorted : ∀ entry ∈ entries, entry.Sorted)
    (numbers : ∀ entry ∈ entries, entry.HasWholeNumbers) :
    (∀ entry ∈ entries, entry.Readable) ↔ (fileJson entries).depth ≤ Json.depthLimit := by
  have limit : Json.depthLimit = Json.depthLimit - 4 + 2 + 2 := by decide
  rw [limit, depth_fileJson_le_iff]
  refine forall₂_congr fun entry member => ?_
  have range := (numbers entry member).inRange
  rw [depth_json_le_iff]
  constructor
  · intro readable
    exact ⟨((Json.readable_iff _ _).mp readable.metadata).2.1,
      ((Json.readable_iff _ _).mp readable.extra).2.1⟩
  · rintro ⟨metadata, extra⟩
    refine ⟨(sorted entry member).links, ?metadata, ?extra⟩
    case metadata =>
      exact (Json.readable_iff _ _).mpr ⟨(sorted entry member).metadata, metadata,
        fun n inside => range n (List.mem_append_left _ inside)⟩
    case extra =>
      exact (Json.readable_iff _ _).mpr ⟨(sorted entry member).extra, extra,
        fun n inside => range n (List.mem_append_right _ inside)⟩

/-- Such entries are read back from the bytes of their file exactly if it is not nested too deep. -/
theorem ofFile?_fileText_iff {entries : List Entry} (sorted : ∀ entry ∈ entries, entry.Sorted)
    (numbers : ∀ entry ∈ entries, entry.HasWholeNumbers) (supply : Supply) :
    ofFile? (fileText entries).toUTF8 supply = some (entries, supply) ↔
      (fileJson entries).depth ≤ Json.depthLimit := by
  rw [← readable_iff_of_whole sorted numbers]
  constructor
  · exact readable_of_ofFile?
  · intro readable
    exact ofFile?_fileText readable
      (fun entry member => (numbers entry member).whole.fractionsReadBack) supply

end Entry

/-- **A file that was written is read as it was**: in the same order the same entries, with the same
head words, notes, definitions and equivalents, levels, identifiers, links and free members.  No new
identifier is drawn.  The entries are such as there can be, with whole numbers of 64 bits only, and
the file is nested no deeper than the reader goes; a file that is nested deeper is not read back. -/
theorem BackingFile.readFiles_of_saved {file : BackingFile}
    (sorted : ∀ entry ∈ file.entries, entry.Sorted)
    (numbers : ∀ entry ∈ file.entries, entry.HasWholeNumbers) {disk after : Disk}
    (saved : file.save disk = (true, after)) (supply : Supply) :
    Lexicon.readFiles after supply [file.path] = .ok ([file], supply) ↔
      (Entry.fileJson file.entries).depth ≤ Json.depthLimit := by
  obtain ⟨path, entries⟩ := file
  have here := Disk.read?_eq_of_at?
    (Disk.at?_of_written_of_samePlace saved (Disk.samePlace_self_of_written saved))
  rw [← Entry.ofFile?_fileText_iff sorted numbers supply, Lexicon.readFiles, here, Option.bind_some,
    BackingFile.bytes]
  cases Entry.ofFile? (Entry.fileText entries).toUTF8 supply with
  | none => simp
  | some result => simp [Lexicon.readFiles, Prod.ext_iff]

/-- Arrays inside each other, so many of them. -/
def nested : Nat → Json
  | 0 => .null
  | count + 1 => .array [nested count]

theorem nested_plain (count : Nat) :
    (nested count).Sorted ∧ (nested count).numbers = [] ∧ (nested count).depth = count := by
  induction count with
  | zero => exact ⟨trivial, rfl, rfl⟩
  | succ count ih =>
    obtain ⟨sorted, numbers, depth⟩ := ih
    refine ⟨⟨sorted, trivial⟩, ?_, ?_⟩
    · rw [nested, Json.numbers, Json.itemNumbers, numbers]
      rfl
    · rw [nested, Json.depth, Json.itemsDepth, depth, Json.itemsDepth, Nat.max_zero]

/-- A file whose texts have quotes, backslashes, control characters and characters beyond the basic
plane in them, and whose last free member is nested so deep. -/
def unusualFile (depth : Nat) : BackingFile where
  path := "words/project.dictionary"
  entries :=
    [{ headWord := "\"Jah\\weh\"\u0000\n", level := .verifiedAuto, id := ⟨255⟩
       definition := some "", equivalents := ["\t𐐷"], links := [⟨1⟩, ⟨2⟩], linkedEntries := [⟨2⟩, ⟨1⟩]
       metadata := [("", .array [.bool true, .number (.negative (Nat.pow 2 63))])]
       notes := ["\u007f\\u0041", "/"]
       extra := [("a\"b", .number (.natural (Nat.pow 2 64 - 1))), ("b", nested depth)] },
      { headWord := "Selah", level := .unverified, id := ⟨0⟩ }]

theorem sorted_unusualFile (depth : Nat) : ∀ entry ∈ (unusualFile depth).entries, entry.Sorted := by
  obtain ⟨sorted, -, -⟩ := nested_plain depth
  intro entry member
  rcases List.mem_pair.mp member with rfl | rfl
  · refine ⟨?links, ?metadata, ?extra⟩
    case links => exact List.pairwise_pair.mpr (by decide : (1 : BitVec 128) < 2)
    case metadata => exact ⟨List.pairwise_singleton _ _, ⟨trivial, trivial, trivial⟩, trivial⟩
    case extra =>
      exact ⟨List.pairwise_pair.mpr (by decide : "a\"b" < "b"), trivial, sorted, trivial⟩
  · exact ⟨.nil, ⟨.nil, trivial⟩, ⟨.nil, trivial⟩⟩

theorem hasWholeNumbers_unusualFile (depth : Nat) :
    ∀ entry ∈ (unusualFile depth).entries, entry.HasWholeNumbers := by
  obtain ⟨-, none, -⟩ := nested_plain depth
  intro entry member n inside
  rcases List.mem_pair.mp member with rfl | rfl
  · simp only [Entry.numbers, Json.numbers, Json.memberNumbers, Json.itemNumbers, none,
      List.append_nil, List.nil_append, List.singleton_append, List.mem_pair] at inside
    rcases inside with rfl | rfl
    · exact ⟨by decide, Nat.le_refl _⟩
    · exact (by decide : Nat.pow 2 64 - 1 < Nat.pow 2 64)
  · cases inside

/-- The file is read as it was; nested one deeper it is not. -/
theorem BackingFile.readFiles_of_saved_unusualFile :
    ∃ shallow deep : Disk,
      let disk : Disk := { nodes := [(["words"], .directory)] }
      (unusualFile 123).save disk = (true, shallow) ∧ (unusualFile 124).save disk = (true, deep) ∧
      Lexicon.readFiles shallow ⟨7⟩ ["words/project.dictionary"]
        = .ok ([unusualFile 123], ⟨7⟩) ∧
      Lexicon.readFiles deep ⟨7⟩ ["words/project.dictionary"] ≠ .ok ([unusualFile 124], ⟨7⟩) := by
  let disk : Disk := { nodes := [(["words"], .directory)] }
  have shallow : (unusualFile 123).save disk = (true, ((unusualFile 123).save disk).2) :=
    Prod.ext (by decide +kernel) rfl
  have deep : (unusualFile 124).save disk = (true, ((unusualFile 124).save disk).2) :=
    Prod.ext (by decide +kernel) rfl
  exact ⟨_, _, shallow, deep,
    (readFiles_of_saved (sorted_unusualFile 123) (hasWholeNumbers_unusualFile 123) shallow ⟨7⟩).mpr
      (by decide +kernel),
    mt (readFiles_of_saved (sorted_unusualFile 124) (hasWholeNumbers_unusualFile 124) deep ⟨7⟩).mp
      (by decide +kernel)⟩

end Orthography
