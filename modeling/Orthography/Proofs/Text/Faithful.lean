import Mathlib.Logic.ExistsUnique
import Orthography.Proofs.Guarded.Token

/-!
# Tokens are faithful to their line

A token says where it stands: after so many bytes of its line, and between two columns.  The tokens of
a line are found in one pass that adds up bytes and columns side by side, over the segments that are
kept as well as over those that are dropped.  All that the tokens say is nevertheless true of the line
(`Token.FaithfulTo`), and together they hold every letter and every number of the line exactly once
(`Token.tokens_faithful`).

Nothing about the segments is needed but that they make up the line.  A token is then one of them,
placed after all those before it (`Token.exists_segments`), and its bytes and its columns follow
(`Token.faithfulTo_of_parts`).  That tokens come in order without overlap
(`Token.pairwise_ofSegments`) and that no letter or number is lost (`Token.exists_holds`) are
inductions over the segments.
-/

namespace Orthography

set_option autoImplicit false

/-- A letter or a number. -/
def Unicode.isAlphanumeric (c : Char) : Bool :=
  isAlphabetic c || isNumeric c

/-! ## Bytes of characters -/

/-- The bytes of a text can be counted character by character. -/
theorem Columns.byteLength_toList (text : String) : byteLength text.toList = text.toUTF8.size := by
  have counted (chars : List Char) :
      byteLength chars = (String.ofList chars).utf8ByteSize := by
    induction chars with
    | nil => rfl
    | cons c rest ih =>
      rw [byteLength, ih, ← List.singleton_append, String.ofList_append,
        String.utf8ByteSize_append, ← String.singleton_eq_ofList, String.utf8ByteSize_singleton]
  rw [counted, String.ofList_toList]
  rfl

/-- A text with a character in it takes some bytes. -/
theorem Columns.byteLength_pos {text : List Char} (letters : text ≠ []) : 0 < byteLength text := by
  cases text with
  | nil => exact absurd rfl letters
  | cons c rest =>
    have first := c.utf8Size_pos
    rw [byteLength]
    omega

/-- The bytes of a part of a text are cut out of the text between those before it and those after
it. -/
theorem Bytes.extract_append (front middle back : String) :
    (front ++ middle ++ back).toUTF8.extract front.toUTF8.size
        (front.toUTF8.size + middle.toUTF8.size)
      = middle.toUTF8 := by
  have outer := @ByteArray.extract_append_size_add front.toUTF8 (middle.toUTF8 ++ back.toUTF8) 0
    middle.toUTF8.size
  have inner : (middle.toUTF8 ++ back.toUTF8).extract 0 middle.toUTF8.size = middle.toUTF8 :=
    ByteArray.extract_append_eq_left rfl
  rw [Nat.add_zero, inner, ← ByteArray.append_assoc] at outer
  simp only [String.toUTF8, String.toByteArray_append] at outer ⊢
  exact outer

namespace Token

open Columns (byteLength byteLength_append byteLength_toList width width_append)

/-! ## One token -/

/-- All that a token says about its place in a line is true. -/
structure FaithfulTo (token : Token) (line : String) : Prop where
  /-- Its text stands in the line, after as many bytes and as many columns as it says. -/
  place : ∃ front back, line = front ++ token.text ++ back ∧
    token.byteStart = front.toUTF8.size ∧ token.start = width front.toList
  /-- It ends right after the columns of its text. -/
  stop : token.stop = token.start + width token.text.toList
  /-- The bytes of the line from its start on spell its text. -/
  bytes : line.toUTF8.extract token.byteStart (token.byteStart + token.text.toUTF8.size)
    = token.text.toUTF8
  /-- The column where it starts is found at the byte where it starts. -/
  offset : Columns.byteOffset line.toList token.start = token.byteStart
  /-- The text between its columns is its text. -/
  slice : Columns.slice line.toList token.start token.stop = token.text.toList
  /-- It has a letter or a number. -/
  word : ∃ c ∈ token.text.toList, Unicode.isAlphanumeric c = true

/-- A part of a line with a letter or a number is a token that is faithful to the line, if it says
how many bytes and columns there are before it. -/
theorem faithfulTo_of_parts {line : String} {front middle back : List Char}
    (whole : line.toList = front ++ middle ++ back) (word : isWord middle = true) :
    FaithfulTo
      ⟨String.ofList middle, byteLength front, width front, width front + width middle⟩ line := by
  have parts : line = String.ofList front ++ String.ofList middle ++ String.ofList back := by
    rw [← String.ofList_append, ← String.ofList_append, ← whole, String.ofList_toList]
  have size : byteLength front = (String.ofList front).toUTF8.size := by
    rw [← byteLength_toList, String.toList_ofList]
  refine ⟨⟨String.ofList front, String.ofList back, parts, size, ?start⟩, ?stop, ?bytes, ?offset,
    ?slice, ?word⟩
  case start => rw [String.toList_ofList]
  case stop => rw [String.toList_ofList]
  case bytes => rw [size, parts, Bytes.extract_append]
  case offset => rw [Columns.byteOffset, whole, List.append_assoc, Columns.cut_width_append]
  case slice => rw [whole, Columns.slice_between, String.toList_ofList]
  case word =>
    rw [String.toList_ofList]
    exact List.any_eq_true.mp word

/-! ## Tokens in a row -/

/-- One token stands before another one, in bytes as well as in columns, and ends before it. -/
structure Before (first second : Token) : Prop where
  byteStart_lt : first.byteStart < second.byteStart
  start_lt : first.start < second.start
  bytes_le : first.byteStart + first.text.toUTF8.size ≤ second.byteStart
  stop_le : first.stop ≤ second.start

/-- The tokens among segments in a row come one after the other. -/
theorem pairwise_ofSegments (segments : List (List Char)) (byte column : Nat) :
    (ofSegments byte column segments).Pairwise Before := by
  induction segments generalizing byte column with
  | nil => exact List.Pairwise.nil
  | cons segment rest ih =>
    have after := ih (byte + byteLength segment) (column + width segment)
    rw [ofSegments]
    split
    · next word =>
      refine List.pairwise_cons.mpr ⟨fun later member => ?_, after⟩
      obtain ⟨before, _, _, -, -, rfl⟩ := exists_segments member
      have size : (String.ofList segment).toUTF8.size = byteLength segment := by
        rw [← byteLength_toList, String.toList_ofList]
      have someBytes := Columns.byteLength_pos (ne_nil_of_isWord word)
      have someColumns := Columns.width_pos (ne_nil_of_isWord word)
      exact ⟨by dsimp only; omega, by dsimp only; omega, by dsimp only; omega,
        Nat.le_add_right _ _⟩
    · exact after

/-- A character that stands after so many bytes of a line is one of the characters of a token. -/
def Holds (token : Token) (offset : Nat) (c : Char) : Prop :=
  ∃ left right, token.text.toList = left ++ c :: right ∧
    offset = token.byteStart + byteLength left

/-- Of two tokens one after the other, at most one holds the character at a byte. -/
theorem Before.not_holds {first second : Token} (before : Before first second) {offset : Nat}
    {c d : Char} (here : first.Holds offset c) : ¬ second.Holds offset d := by
  rintro ⟨_, _, -, there⟩
  obtain ⟨left, right, split, offset_eq⟩ := here
  have size : first.text.toUTF8.size = byteLength left + byteLength (c :: right) := by
    rw [← byteLength_toList, split, byteLength_append]
  have some := Columns.byteLength_pos (List.cons_ne_nil c right)
  have disjoint := before.bytes_le
  omega

/-- A letter or a number is held by a token, whatever segment it is in. -/
theorem exists_holds {c : Char} (letter : Unicode.isAlphanumeric c = true)
    {segments : List (List Char)} {front back : List Char}
    (whole : segments.flatten = front ++ c :: back) (byte column : Nat) :
    ∃ token ∈ ofSegments byte column segments, token.Holds (byte + byteLength front) c := by
  induction segments generalizing front byte column with
  | nil => exact absurd whole.symm (List.append_ne_nil_of_right_ne_nil _ (List.cons_ne_nil _ _))
  | cons segment rest ih =>
    have later {more : List Char} (longer : front = segment ++ more)
        (split : rest.flatten = more ++ c :: back) :
        ∃ token ∈ ofSegments byte column (segment :: rest),
          token.Holds (byte + byteLength front) c := by
      obtain ⟨token, member, holds⟩ :=
        ih split (byte + byteLength segment) (column + width segment)
      rw [Nat.add_assoc, ← byteLength_append, ← longer] at holds
      refine ⟨token, ?_, holds⟩
      rw [ofSegments]
      split
      · exact List.mem_cons_of_mem _ member
      · exact member
    rw [List.flatten_cons, List.append_eq_append_iff] at whole
    rcases whole with ⟨more, longer, split⟩ | ⟨more, shorter, split⟩
    · exact later longer split
    · cases more with
      | nil =>
        rw [List.append_nil] at shorter
        exact @later [] (by rw [shorter, List.append_nil]) split.symm
      | cons d right =>
        -- The character is in this segment, which is a word because of it.
        obtain ⟨rfl, -⟩ := List.cons.inj split
        have word : isWord segment = true :=
          List.any_eq_true.mpr ⟨c, by rw [shorter]; simp, letter⟩
        refine ⟨⟨String.ofList segment, byte, column, column + width segment⟩, ?_, front, right, ?_,
          rfl⟩
        · rw [ofSegments, if_pos word]
          exact List.mem_cons_self
        · rw [String.toList_ofList, shorter]

/-! ## The tokens of a line -/

/-- Tokens are the words of a line: each is faithful to the line, they come one after the other, and
every letter and every number is in exactly one of them. -/
structure WordsOf (line : String) (tokens : List Token) : Prop where
  faithful : ∀ token ∈ tokens, token.FaithfulTo line
  ordered : tokens.Pairwise Before
  once : ∀ front c back, line.toList = front ++ c :: back → Unicode.isAlphanumeric c = true →
    ∃! token, token ∈ tokens ∧ token.Holds (byteLength front) c

/-- **The tokens among any segments that make up a line are the words of the line.** -/
theorem wordsOf_ofSegments {line : String} {segments : List (List Char)}
    (whole : segments.flatten = line.toList) : WordsOf line (ofSegments 0 0 segments) := by
  have ordered := pairwise_ofSegments segments 0 0
  refine ⟨?faithful, ordered, ?once⟩
  case faithful =>
    intro token member
    obtain ⟨before, segment, after, split, word, rfl⟩ := exists_segments member
    rw [split, List.flatten_append, List.flatten_cons, ← List.append_assoc] at whole
    simp only [Nat.zero_add]
    exact faithfulTo_of_parts whole.symm word
  case once =>
    intro front c back split letter
    obtain ⟨token, member, holds⟩ := exists_holds letter (whole.trans split) 0 0
    rw [Nat.zero_add] at holds
    refine ⟨token, ⟨member, holds⟩, ?_⟩
    rintro other ⟨there, too⟩
    -- Of two different tokens one stands before the other, and they do not hold the same byte.
    refine Decidable.byContradiction fun different => ?_
    obtain ⟨i, _, rfl⟩ := List.mem_iff_getElem.mp member
    obtain ⟨j, _, rfl⟩ := List.mem_iff_getElem.mp there
    have apart := List.pairwise_iff_getElem.mp ordered
    rcases Nat.lt_trichotomy i j with less | rfl | greater
    · exact (apart i j _ _ less).not_holds holds too
    · exact different rfl
    · exact (apart j i _ _ greater).not_holds too holds

/-- **Tokens are faithful to their line.**  In a line with fewer columns than 32 bits can count, the
tokens are found without a sum that overflows; each stands where it says, in bytes and in columns, and
is the text between its columns; they come one after the other; and every letter and every number is in
exactly one of them.  The same is true of the tokens among any other segments that make up the line. -/
theorem tokens_faithful {line : String} (narrow : width line.toList < Nat.pow 2 32) :
    (Guarded.tokens line = some (ofLine line) ∧ WordsOf line (ofLine line) ∧
        ∀ token ∈ ofLine line, token.stop < Nat.pow 2 32) ∧
      ∀ segments : List (List Char), segments.flatten = line.toList →
        Guarded.tokensFrom line.toList 0 0 (Guarded.located 0 segments)
            = some (ofSegments 0 0 segments) ∧
          WordsOf line (ofSegments 0 0 segments) := by
  have words : WordsOf line (ofLine line) :=
    wordsOf_ofSegments (Segment.flatten_ofLine line.toList)
  refine ⟨⟨Guarded.tokens_eq narrow, words, ?counted⟩, fun segments whole => ⟨?found, ?any⟩⟩
  case counted =>
    intro token member
    have faithful := words.faithful token member
    obtain ⟨front, back, parts, -, start⟩ := faithful.place
    rw [parts, String.toList_append, String.toList_append, width_append, width_append, ← start,
      ← faithful.stop] at narrow
    exact Nat.lt_of_le_of_lt (Nat.le_add_right _ _) narrow
  case found =>
    refine Guarded.tokensFrom_eq ?_ ?_
    · exact Nat.le_of_eq (by rw [whole, Nat.zero_add])
    · rwa [whole, Nat.zero_add]
  case any => exact wordsOf_ofSegments whole

/-- A line that starts with a character of two columns, which is no word, and has quotes, a letter of
two columns, a combining mark and a fraction in it. -/
def mixedLine : String := "😀 «𝗛e\u0301lo» – 3½"

/-- Three characters are dropped before the first token, and four before the second one.  A digit and
a fraction are two words. -/
theorem tokens_faithful_mixedLine :
    width mixedLine.toList < Nat.pow 2 32 ∧
      ofLine mixedLine = [⟨"𝗛e\u0301lo", 7, 4, 10⟩, ⟨"3", 23, 14, 15⟩, ⟨"½", 24, 15, 16⟩] ∧
      WordsOf mixedLine (ofLine mixedLine) := by
  have narrow : width mixedLine.toList < Nat.pow 2 32 := by decide +kernel
  exact ⟨narrow, by decide +kernel, (tokens_faithful narrow).1.2.1⟩

end Token

end Orthography
