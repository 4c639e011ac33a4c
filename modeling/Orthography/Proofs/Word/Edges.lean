import Orthography.Lexicon.Entry
import Mathlib.Data.List.DropRight

/-!
# The edges of words

Trimming a second time changes nothing, so the surface form of a word has the key of the word
(`Word.key_surface`), and an entry made for a word is found under the key of the word
(`Entry.key_ofWord`).  A word is its surface form with white space and punctuation around it
(`Word.exists_eq_surface`), and more of them do not change the surface form (`Word.surface_append`).
-/

namespace Orthography

set_option autoImplicit false

namespace Word

variable (drop : Char → Bool)

/-- Trimming is dropping at the end what is left after dropping at the start. -/
theorem trimBy_eq_rdropWhile (text : List Char) :
    trimBy drop text = (text.dropWhile drop).rdropWhile drop :=
  rfl

/-- Dropping at the end leaves a text alone that starts with nothing to be dropped. -/
theorem dropWhile_rdropWhile {text : List Char} (trimmed : text.dropWhile drop = text) :
    (text.rdropWhile drop).dropWhile drop = text.rdropWhile drop := by
  have front : text.rdropWhile drop <+: text := List.rdropWhile_prefix drop text
  cases kept : text.rdropWhile drop with
  | nil => rfl
  | cons c rest =>
    obtain ⟨after, whole⟩ := front
    rw [kept] at whole
    rw [← whole, List.cons_append, List.dropWhile_cons] at trimmed
    split at trimmed
    · next edge =>
      -- Then the text would have lost its first character.
      have shorter := congrArg List.length trimmed
      have bound : ((rest ++ after).dropWhile drop).length ≤ (rest ++ after).length :=
        (List.dropWhile_suffix drop).length_le
      simp only [List.length_cons] at shorter
      omega
    · next inner => rw [List.dropWhile_cons_of_neg inner]

/-- Trimming a second time changes nothing. -/
theorem trimBy_trimBy (text : List Char) : trimBy drop (trimBy drop text) = trimBy drop text := by
  have once : (text.dropWhile drop).dropWhile drop = text.dropWhile drop :=
    List.dropWhile_idempotent drop text
  rw [trimBy_eq_rdropWhile, trimBy_eq_rdropWhile, dropWhile_rdropWhile drop once]
  exact List.rdropWhile_idempotent drop _

/-- Trimming leaves a text as it is if it neither starts nor ends with a character of the class, and
only then. -/
theorem trimBy_eq_self_iff {text : List Char} :
    trimBy drop text = text ↔
      (∀ c ∈ text.head?, drop c = false) ∧ ∀ c ∈ text.getLast?, drop c = false := by
  have front : text.dropWhile drop = text ↔ ∀ c ∈ text.head?, drop c = false := by
    cases text <;> simp [List.dropWhile_eq_self_iff]
  have back : text.rdropWhile drop = text ↔ ∀ c ∈ text.getLast?, drop c = false := by
    cases text using List.reverseRecOn <;> simp [List.rdropWhile_eq_self_iff]
  rw [trimBy_eq_rdropWhile, ← front, ← back]
  constructor
  · intro same
    have whole : text.dropWhile drop = text := by
      have shorter := (List.rdropWhile_prefix drop (text.dropWhile drop)).length_le
      rw [same] at shorter
      exact (List.dropWhile_suffix drop).eq_of_length_le shorter
    rw [whole] at same
    exact ⟨whole, same⟩
  · rintro ⟨whole, same⟩
    rw [whole, same]

/-- A text is nothing but characters of a class if nothing is left of it, and only then. -/
theorem trimBy_eq_nil_iff {text : List Char} :
    trimBy drop text = [] ↔ ∀ c ∈ text, drop c = true := by
  rw [trimBy, List.reverse_eq_nil_iff, List.dropWhile_eq_nil_iff]
  constructor
  · intro all c member
    by_contra inner
    have kept : text.dropWhile drop ≠ [] := fun none =>
      inner (List.dropWhile_eq_nil_iff.mp none c member)
    -- What is left after dropping at the start begins with a character that is not dropped.
    have first := List.head_dropWhile_not drop kept
    rw [all _ (List.mem_reverse.mpr (List.head_mem kept))] at first
    cases first
  · intro all c member
    exact all c ((List.dropWhile_suffix drop).subset (List.mem_reverse.mp member))

/-- Characters of the class before and after a text are trimmed with the text. -/
theorem trimBy_append {front back : List Char} (text : List Char)
    (before : ∀ c ∈ front, drop c = true) (after : ∀ c ∈ back, drop c = true) :
    trimBy drop (front ++ text ++ back) = trimBy drop text := by
  by_cases all : ∀ c ∈ text, drop c = true
  · rw [(trimBy_eq_nil_iff drop).mpr all, trimBy_eq_nil_iff, List.forall_mem_append,
      List.forall_mem_append]
    exact ⟨⟨before, all⟩, after⟩
  · -- Dropping at the start stops inside the text, and so does dropping at the end.
    have kept : text.dropWhile drop ≠ [] := mt List.dropWhile_eq_nil_iff.mp all
    have start : (front ++ text ++ back).dropWhile drop = text.dropWhile drop ++ back := by
      rw [List.append_assoc, List.dropWhile_append_of_pos before, List.dropWhile_append,
        if_neg (mt List.isEmpty_iff.mp kept)]
    have backwards : ∀ c ∈ back.reverse, drop c = true := fun c member =>
      after c (List.mem_reverse.mp member)
    rw [trimBy, trimBy, start, List.reverse_append, List.dropWhile_append_of_pos backwards]

/-- A text that does not start with a character of the class is trimmed after its first character. -/
theorem trimBy_cons {c : Char} (kept : drop c = false) (rest : List Char) :
    trimBy drop (c :: rest) = c :: rest.rdropWhile drop := by
  have stays : ¬drop c = true := Bool.eq_false_iff.mp kept
  rw [trimBy_eq_rdropWhile, List.dropWhile_cons_of_neg stays]
  simp only [List.rdropWhile, List.reverse_cons, List.dropWhile_append,
    List.dropWhile_cons_of_neg stays]
  split
  · next none => rw [List.isEmpty_iff.mp none, List.reverse_nil, List.reverse_singleton]
  · rw [List.reverse_append, List.reverse_singleton, List.singleton_append]

/-- A text is what is left of it after trimming, with characters of the class around it. -/
theorem exists_eq_trimBy (text : List Char) :
    ∃ front back, (∀ c ∈ front, drop c = true) ∧ (∀ c ∈ back, drop c = true) ∧
      text = front ++ trimBy drop text ++ back := by
  refine ⟨text.takeWhile drop, (text.dropWhile drop).rtakeWhile drop,
    fun c => List.mem_takeWhile_imp, fun c => List.mem_rtakeWhile_imp, ?_⟩
  rw [trimBy_eq_rdropWhile, List.append_assoc, List.rdropWhile_append_rtakeWhile,
    List.takeWhile_append_dropWhile]

/-- A text from which something is left after trimming has a character that is no white space. -/
theorem exists_of_trimmed_isEmpty_eq_false {text : String}
    (named : (trimmed text).isEmpty = false) :
    ∃ c ∈ text.toList, Unicode.isWhiteSpace c = false := by
  by_contra blank
  have none : trimBy Unicode.isWhiteSpace text.toList = [] := by
    rw [trimBy_eq_nil_iff]
    intro c member
    by_contra other
    exact blank ⟨c, member, Bool.eq_false_iff.mpr other⟩
  rw [trimmed, none] at named
  cases named

/-- A text of nothing but white space and punctuation. -/
def AllEdges (text : String) : Prop :=
  ∀ c ∈ text.toList, isEdge c = true

/-- White space and punctuation around a word do not change its surface form. -/
theorem surface_append {front back : String} (word : String) (before : AllEdges front)
    (after : AllEdges back) : surface (front ++ word ++ back) = surface word := by
  rw [surface, surface, surfaceChars, surfaceChars, String.toList_append, String.toList_append,
    trimBy_append isEdge word.toList before after]

/-- A word is its surface form with white space and punctuation around it. -/
theorem exists_eq_surface (word : String) :
    ∃ front back, AllEdges front ∧ AllEdges back ∧ word = front ++ surface word ++ back := by
  obtain ⟨front, back, before, after, whole⟩ := exists_eq_trimBy isEdge word.toList
  refine ⟨String.ofList front, String.ofList back, ?_, ?_, ?_⟩
  · rw [AllEdges, String.toList_ofList]
    exact before
  · rw [AllEdges, String.toList_ofList]
    exact after
  · rw [surface, surfaceChars, ← String.ofList_append, ← String.ofList_append, ← whole,
      String.ofList_toList]

/-- The surface form of a word has the key of the word. -/
theorem key_surface (word : String) : key (surface word) = key word := by
  simp only [key, keyChars, surface, surfaceChars, String.toList_ofList, trimBy_trimBy]

end Word

/-- An entry made for a word is found under the key of the word. -/
theorem Entry.key_ofWord (word : String) (level : Level) (id : Identifier) :
    (Entry.ofWord word level id).key = Word.key word :=
  Word.key_surface word

end Orthography
