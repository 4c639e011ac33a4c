import Mathlib.Logic.Basic
import Orthography.Proofs.Pattern.Search
import Orthography.Proofs.Unicode.CodeRun
import Orthography.Word.Reference

/-!
# Which lines carry a reference

A reference to a verse consists of the capitals of a book, perhaps with digits in front, one white space,
and a chapter and a verse with a colon between them (`Word.Cites`).  It starts and ends at the edge of a
word (`Word.WordEdge`).  The lines that carry one are those that can be cut in this way
(`Word.isScriptureReference_iff`).

The pattern also admits white space between the digits and the capitals.  This makes no difference to
the lines it is found in.  White space is no word character, so that the capitals after it start a word
of their own, and the reference can as well be read without what stands in front of them
(`Word.exists_cites_of_gap`).
-/

namespace Orthography.Word

set_option autoImplicit false

open Pattern Unicode

variable {c : Char} {before after front number book chapter verse back : List Char} {blank : Char}

/-! ## Classes of characters -/

/-- Letters, marks, decimal digits and connectors. -/
def IsWordChar (c : Char) : Prop :=
  CharSet.word.contains c.toNat = true

/-- Decimal digits of any script. -/
def IsDigit (c : Char) : Prop :=
  CharSet.digit.contains c.toNat = true

/-- The capitals of ASCII. -/
def IsCapital (c : Char) : Prop :=
  'A' ≤ c ∧ c ≤ 'Z'

/-- A span holds the code points from its first to its last. -/
theorem contains_span_iff {first last n : Nat} :
    (CharSet.span first last).contains n = true ↔ first ≤ n ∧ n ≤ last := by
  rw [← CodeRun.contains_dense_iff, CharSet.span, CharSet.contains, CodeRun.covers, CodeRun.covers,
    Bool.or_false]
  split
  · next before =>
    have less : n < first := before
    rw [CodeRun.contains_dense_iff]
    exact iff_of_false Bool.false_ne_true fun inside => Nat.not_le.mpr less inside.1
  · rfl

theorem contains_capitals_iff : (CharSet.span 0x41 0x5A).contains c.toNat = true ↔ IsCapital c := by
  rw [contains_span_iff, IsCapital, Char.le_def, Char.le_def, UInt32.le_iff_toNat_le,
    UInt32.le_iff_toNat_le]
  rfl

theorem contains_single_iff {sign : Char} :
    (CharSet.single sign).contains c.toNat = true ↔ c = sign := by
  rw [CharSet.single, contains_span_iff, ← Char.toNat_inj]
  omega

/-- The code points of white space and of the capitals, looked up among those of word characters. -/
structure WordRunsAgree : Prop where
  blanks : CodeRun.allAgree false 0 whiteSpace wordRuns = true
  capitals : CodeRun.agrees true ⟨0x41, 0x5A, 1⟩ wordRuns = true

/-- White space is no word character, and the capitals are. -/
theorem wordRunsAgree : WordRunsAgree := by
  constructor <;> decide +kernel

theorem not_isWordChar_of_isWhiteSpace (white : isWhiteSpace c = true) : ¬ IsWordChar c := by
  have outside : CodeRun.covers wordRuns c.toNat = false :=
    CodeRun.covers_of_allAgree wordRunsAgree.blanks white
  intro inside
  rw [IsWordChar, CharSet.word, CharSet.contains, outside] at inside
  cases inside

theorem isWordChar_of_isCapital (capital : IsCapital c) : IsWordChar c := by
  obtain ⟨first, last⟩ := contains_span_iff.mp (contains_capitals_iff.mpr capital)
  exact CodeRun.covers_of_agrees wordRunsAgree.capitals
    (CodeRun.contains_dense_iff.mpr ⟨first, last⟩)

/-! ## Edges of words -/

/-- The edge of a word lies between two texts: a word character stands on one side of it, and none on
the other. -/
def WordEdge (before after : List Char) : Prop :=
  Xor (∃ c, before.getLast? = some c ∧ IsWordChar c) (∃ c, after.head? = some c ∧ IsWordChar c)

theorem neighbourIn_iff {neighbour : Option Char} :
    neighbourIn .word neighbour = true ↔ ∃ c, neighbour = some c ∧ IsWordChar c := by
  cases neighbour <;> simp [neighbourIn, IsWordChar]

/-- The place that the pattern calls an edge is one. -/
theorem holds_edge_iff :
    (Place.edge .word).holds before.getLast? after.head? = true ↔ WordEdge before after := by
  rw [Place.holds, WordEdge, ← neighbourIn_iff, ← neighbourIn_iff]
  cases neighbourIn .word before.getLast? <;> cases neighbourIn .word after.head? <;> simp [Xor]

/-- What comes further on has no part in the edge before a text. -/
theorem wordEdge_append_right (filled : after ≠ []) (further : List Char) :
    WordEdge before (after ++ further) ↔ WordEdge before after := by
  obtain ⟨first, rest, rfl⟩ := List.exists_cons_of_ne_nil filled
  rfl

/-- What comes further in front has no part in the edge after a text. -/
theorem wordEdge_append_left (filled : before ≠ []) (further : List Char) :
    WordEdge (further ++ before) after ↔ WordEdge before after := by
  rw [WordEdge, WordEdge, List.getLast?_append, List.getLast?_eq_some_getLast filled,
    Option.some_or]

/-! ## References -/

/-- The parts of a reference: digits, or none, the capitals of the book, one white space, and the digits
of the chapter and of the verse. -/
structure Cites (number book : List Char) (blank : Char) (chapter verse : List Char) : Prop where
  number_digits : ∀ c ∈ number, IsDigit c
  book_filled : book ≠ []
  book_capitals : ∀ c ∈ book, IsCapital c
  blank_white : isWhiteSpace blank = true
  chapter_filled : chapter ≠ []
  chapter_digits : ∀ c ∈ chapter, IsDigit c
  verse_filled : verse ≠ []
  verse_digits : ∀ c ∈ verse, IsDigit c

/-- A row of digits that is not empty. -/
theorem matches_digits_iff {matched : List Char} :
    Matches digits before matched after ↔ matched ≠ [] ∧ ∀ c ∈ matched, IsDigit c :=
  matches_plus_one_iff

/-- A verse marker: a chapter and a verse with a colon between them. -/
theorem matches_verseMarker_iff {matched : List Char} :
    Matches verseMarker before matched after ↔
      ∃ chapter verse, matched = chapter ++ [':'] ++ verse ∧
        (chapter ≠ [] ∧ ∀ c ∈ chapter, IsDigit c) ∧ verse ≠ [] ∧ ∀ c ∈ verse, IsDigit c := by
  simp only [verseMarker, Expr.all, List.foldr_cons, List.foldr_nil, matches_seq_iff,
    matches_digits_iff, matches_one_iff, matches_empty_iff, contains_single_iff]
  constructor
  · rintro ⟨chapter, _, rfl, chapterRow, _, _, rfl, ⟨_, rfl, rfl⟩, verse, _, rfl, verseRow, rfl⟩
    exact ⟨chapter, verse, by simp, chapterRow, verseRow⟩
  · rintro ⟨chapter, verse, rfl, chapterRow, verseRow⟩
    exact ⟨chapter, ':' :: verse, by simp, chapterRow, [':'], verse, rfl, ⟨':', rfl, rfl⟩, verse,
      [], by simp, verseRow, rfl⟩

/-- What the pattern matches: a reference, perhaps with white space behind the digits in front. -/
theorem matches_scriptureReference_iff {matched : List Char} :
    Matches scriptureReference before matched after ↔
      ∃ number gap book blank chapter verse,
        matched = number ++ gap ++ book ++ [blank] ++ chapter ++ [':'] ++ verse ∧
          Cites number book blank chapter verse ∧ (∀ c ∈ gap, isWhiteSpace c = true) ∧
            WordEdge before (number ++ gap ++ book) ∧ WordEdge verse after := by
  simp only [scriptureReference, Expr.all, List.foldr_cons, List.foldr_nil, matches_seq_iff,
    matches_at_iff, matches_star_one_iff, matches_plus_one_iff, matches_one_iff,
    matches_verseMarker_iff, matches_empty_iff, contains_capitals_iff, holds_edge_iff]
  constructor
  · rintro ⟨_, _, rfl, ⟨rfl, opens⟩, number, _, rfl, numberDigits, gap, _, rfl, white, book, _, rfl,
      ⟨bookFilled, capitals⟩, _, _, rfl, ⟨blank, rfl, blankWhite⟩, _, _, rfl,
      ⟨chapter, verse, rfl, ⟨chapterFilled, chapterDigits⟩, verseFilled, verseDigits⟩, _, _, rfl,
      ⟨rfl, closes⟩, rfl⟩
    refine ⟨number, gap, book, blank, chapter, verse, by simp, ?cites, white, ?opens, ?closes⟩
    case cites =>
      exact ⟨numberDigits, bookFilled, capitals, blankWhite, chapterFilled, chapterDigits,
        verseFilled, verseDigits⟩
    case opens =>
      rw [← wordEdge_append_right (by simp [bookFilled])
        ([blank] ++ chapter ++ [':'] ++ verse ++ after)]
      simpa using opens
    case closes =>
      rw [← wordEdge_append_left verseFilled
        (before ++ number ++ gap ++ book ++ [blank] ++ chapter ++ [':'])]
      simpa using closes
  · rintro ⟨number, gap, book, blank, chapter, verse, rfl, cites, white, opens, closes⟩
    rw [← wordEdge_append_right (by simp [cites.book_filled])
      ([blank] ++ chapter ++ [':'] ++ verse ++ after)] at opens
    rw [← wordEdge_append_left cites.verse_filled
      (before ++ number ++ gap ++ book ++ [blank] ++ chapter ++ [':'])] at closes
    have marker : ∃ chapter' verse', chapter ++ [':'] ++ verse = chapter' ++ [':'] ++ verse' ∧
        (chapter' ≠ [] ∧ ∀ c ∈ chapter', IsDigit c) ∧ verse' ≠ [] ∧ ∀ c ∈ verse', IsDigit c :=
      ⟨chapter, verse, rfl, ⟨cites.chapter_filled, cites.chapter_digits⟩, cites.verse_filled,
        cites.verse_digits⟩
    exact ⟨[], number ++ (gap ++ (book ++ ([blank] ++ (chapter ++ [':'] ++ verse)))), by simp,
      ⟨rfl, by simpa using opens⟩, number, _, rfl, cites.number_digits, gap, _, rfl, white, book, _,
      rfl, ⟨cites.book_filled, cites.book_capitals⟩, [blank], _, rfl, ⟨blank, rfl, cites.blank_white⟩,
      chapter ++ [':'] ++ verse, [], by simp, marker, [], [], rfl,
      ⟨rfl, by simpa using closes⟩, rfl⟩

/-- Behind white space, the capitals of a book start a word of their own. -/
theorem wordEdge_of_gap {gap : List Char} (white : ∀ c ∈ gap, isWhiteSpace c = true)
    (cites : Cites number book blank chapter verse) :
    WordEdge gap book := by
  obtain ⟨first, rest, rfl⟩ := List.exists_cons_of_ne_nil cites.book_filled
  have capital := cites.book_capitals first List.mem_cons_self
  refine Or.inr ⟨⟨first, rfl, isWordChar_of_isCapital capital⟩, ?_⟩
  rintro ⟨last, final, inside⟩
  exact not_isWordChar_of_isWhiteSpace (white last (List.mem_of_getLast? final)) inside

/-- **White space in front of the capitals can be left out of the reference**, together with what stands
before it. -/
theorem exists_cites_of_gap {gap : List Char} (white : ∀ c ∈ gap, isWhiteSpace c = true)
    (cites : Cites number book blank chapter verse)
    (opens : WordEdge front (number ++ gap ++ book)) :
    ∃ front' number', front ++ number ++ gap = front' ++ number' ∧
      Cites number' book blank chapter verse ∧ WordEdge front' (number' ++ book) := by
  by_cases filled : gap = []
  · subst filled
    rw [List.append_nil] at opens
    exact ⟨front, number, by simp, cites, opens⟩
  · refine ⟨front ++ number ++ gap, [], by simp, { cites with number_digits := by simp }, ?_⟩
    rw [wordEdge_append_left filled]
    exact wordEdge_of_gap white cites

/-- **A line carries a reference exactly when it can be cut at one.** -/
theorem isScriptureReference_iff (line : String) :
    isScriptureReference line = true ↔
      ∃ front number book blank chapter verse back,
        line.toList = front ++ number ++ book ++ [blank] ++ chapter ++ [':'] ++ verse ++ back ∧
          Cites number book blank chapter verse ∧ WordEdge front (number ++ book) ∧
            WordEdge verse back := by
  rw [isScriptureReference, occursIn_iff, Occurs]
  constructor
  · rintro ⟨front, matched, back, whole, found⟩
    obtain ⟨number, gap, book, blank, chapter, verse, rfl, cites, white, opens, closes⟩ :=
      matches_scriptureReference_iff.mp found
    obtain ⟨front', number', same, cites', opens'⟩ := exists_cites_of_gap white cites opens
    refine ⟨front', number', book, blank, chapter, verse, back, ?_, cites', opens', closes⟩
    rw [whole]
    simp only [← List.append_assoc, same]
  · rintro ⟨front, number, book, blank, chapter, verse, back, whole, cites, opens, closes⟩
    refine ⟨front, number ++ book ++ [blank] ++ chapter ++ [':'] ++ verse, back, by simp [whole], ?_⟩
    exact matches_scriptureReference_iff.mpr ⟨number, [], book, blank, chapter, verse, by simp, cites,
      by simp, by simpa using opens, closes⟩

/-- The digits in front belong to no word of the reference, which can be read without them. -/
example : isScriptureReference "see 1 JN 4:8" = true := by decide +kernel

end Orthography.Word
