import Orthography.Proofs.Text.Token

/-!
# Replacing a token by its bytes

A token carries two descriptions of its place in a line: the columns around it, and the number of
bytes before it.  Replacing goes by the bytes.  Both descriptions come from the segments of the line:
a token is one of them, placed after all the segments before it (`Token.exists_segments`).  So they
agree about what stands to its left and to its right, and this is what replacing keeps
(`Token.exists_replace_eq`).
-/

namespace Orthography

set_option autoImplicit false

/-- A text takes the bytes of its parts. -/
theorem Columns.byteLength_append (front back : List Char) :
    byteLength (front ++ back) = byteLength front + byteLength back := by
  induction front with
  | nil => exact (Nat.zero_add _).symm
  | cons c rest ih => rw [List.cons_append, byteLength, byteLength, ih, Nat.add_assoc]

namespace Token

open Columns (byteLength byteLength_append width width_append)

/-- The byte offset at the length of a front cuts off that front. -/
theorem cutBytes_byteLength_append (front back : List Char) :
    cutBytes (byteLength front) (front ++ back) = (front, back) := by
  induction front with
  | nil => cases back <;> rfl
  | cons c rest ih =>
    obtain ⟨before, size⟩ : ∃ before, c.utf8Size = before + 1 :=
      Nat.exists_eq_add_one.mpr c.utf8Size_pos
    have past : byteLength (c :: rest) = before + byteLength rest + 1 := by
      rw [byteLength, size]
      omega
    have left : before + byteLength rest + 1 - c.utf8Size = byteLength rest := by omega
    rw [past, List.cons_append, cutBytes, left, ih]

/-- **A token is a segment**, placed after all the segments before it, in bytes as well as in
columns. -/
theorem exists_segments {segments : List (List Char)} {byte column : Nat} {token : Token}
    (member : token ∈ ofSegments byte column segments) :
    ∃ before segment after, segments = before ++ segment :: after ∧ isWord segment = true ∧
      token =
        { text := String.ofList segment
          byteStart := byte + byteLength before.flatten
          start := column + width before.flatten
          stop := column + width before.flatten + width segment } := by
  induction segments generalizing byte column with
  | nil => cases member
  | cons first rest ih =>
    have later (inside : token ∈ ofSegments (byte + byteLength first) (column + width first) rest) :
        ∃ before segment after, first :: rest = before ++ segment :: after ∧
          isWord segment = true ∧
          token =
            { text := String.ofList segment
              byteStart := byte + byteLength before.flatten
              start := column + width before.flatten
              stop := column + width before.flatten + width segment } := by
      obtain ⟨before, segment, after, split, word, same⟩ := ih inside
      refine ⟨first :: before, segment, after, by rw [split, List.cons_append], word, ?_⟩
      rw [same, List.flatten_cons, byteLength_append, width_append, Nat.add_assoc byte,
        Nat.add_assoc column]
    rw [ofSegments] at member
    split at member
    · next word =>
      rcases List.mem_cons.mp member with here | inside
      · exact ⟨[], first, rest, rfl, word, here⟩
      · exact later inside
    · exact later member

/-- **Replacing a token keeps what stands to its left and to its right**, and its columns are around
what is replaced. -/
theorem exists_replace_eq {line : String} {token : Token} (member : token ∈ ofLine line) :
    ∃ front back, line = String.ofList (front ++ token.text.toList ++ back) ∧
      token.StandsAfter front ∧
      ∀ replacement : String,
        token.replace line replacement = String.ofList (front ++ replacement.toList ++ back) := by
  obtain ⟨before, segment, after, split, word, rfl⟩ := exists_segments member
  have whole : line.toList = before.flatten ++ segment ++ after.flatten := by
    rw [← Segment.flatten_ofLine line.toList, split, List.flatten_append, List.flatten_cons,
      List.append_assoc]
  refine ⟨before.flatten, after.flatten, ?line, ?stands, ?replaced⟩
  case line => rw [String.toList_ofList, ← whole, String.ofList_toList]
  case stands =>
    constructor
    · rw [String.toList_ofList]
      exact ne_nil_of_isWord word
    · exact Nat.zero_add _
    · simp only [String.toList_ofList, Nat.zero_add]
  case replaced =>
    intro replacement
    have left : (cutBytes (byteLength before.flatten) line.toList).1 = before.flatten := by
      rw [whole, List.append_assoc, cutBytes_byteLength_append]
    have right : (cutBytes (byteLength before.flatten + byteLength segment) line.toList).2
        = after.flatten := by
      rw [whole, ← byteLength_append, cutBytes_byteLength_append]
    simp only [replace, String.toList_ofList, Nat.zero_add, left, right]

end Token

end Orthography
