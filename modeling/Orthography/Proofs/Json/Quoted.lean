import Orthography.Json.Form
import Orthography.Json.Printer

/-!
# Strings that are printed and read

A text in quotes is read as this text, whatever characters it has (`Json.readString_quoted`).  Each
character is read from its escape as one piece (`Json.readPieces_escape`): a control character
without a short escape as a unit, any other one as itself.
-/

namespace Orthography.Json

set_option autoImplicit false

/-- The piece that a character is read as after it was escaped. -/
def piece (c : Char) : Piece :=
  if c.toNat < 0x20 && !(['\x08', '\x0c', '\n', '\r', '\t'].contains c) then .unit c.toNat
  else .char (some c)

theorem hexDigit?_hexChar : ∀ n < 16, hexDigit? (some (hexChar n)) = some n := by decide

/-- An escaped unit is one piece. -/
theorem readPieces_unit {n : Nat} (small : n < 0x20) (rest : Text) :
    readPieces (['\\', 'u', '0', '0', hexChar (n / 16), hexChar (n % 16)].map some ++ rest) =
      (readPieces rest).map fun read => (.unit n :: read.1, read.2) := by
  have high := hexDigit?_hexChar (n / 16) (by omega)
  have low := hexDigit?_hexChar (n % 16) (by omega)
  have zero : hexDigit? (some '0') = some 0 := by decide
  have value : (0 * 16 + 0) * 256 + n / 16 * 16 + n % 16 = n := by omega
  simp only [List.map_cons, List.map_nil, List.cons_append, List.nil_append, readPieces, zero, high,
    low, Option.bind_eq_bind, Option.bind_some, value]
  cases readPieces rest <;> rfl

/-- A character that needs no escape is one piece. -/
theorem readPieces_plain {c : Char} (noQuote : c ≠ '"') (noEscape : c ≠ '\\')
    (printable : ¬ c.toNat < 0x20) (rest : Text) :
    readPieces (some c :: rest) =
      (readPieces rest).map fun read => (.char (some c) :: read.1, read.2) := by
  rw [readPieces]
  · rw [if_neg (by simpa [noEscape] using printable)]
    cases readPieces rest <;> rfl
  · rintro ⟨⟩
    exact noQuote rfl
  · rintro _ _ _ _ _ ⟨⟩ _
    exact noEscape rfl
  · rintro _ _ ⟨⟩ _
    exact noEscape rfl

/-- **Every character is read as one piece.** -/
theorem readPieces_escape (c : Char) (rest : Text) :
    readPieces ((escape c).map some ++ rest) =
      (readPieces rest).map fun read => (piece c :: read.1, read.2) := by
  have short (letter : Char) (known : shortEscape? letter = some c) (noUnit : letter ≠ 'u')
      (whole : piece c = .char (some c)) :
      readPieces (['\\', letter].map some ++ rest) =
        (readPieces rest).map fun read => (piece c :: read.1, read.2) := by
    rw [List.map_cons, List.map_cons, List.map_nil, List.cons_append, List.cons_append,
      List.nil_append, readPieces, whole]
    · rw [known]
      cases readPieces rest <;> rfl
    · intros
      exact noUnit ‹letter = 'u'›
  unfold escape
  split
  · next same => subst same; exact short '"' rfl (by decide) rfl
  split
  · next same => subst same; exact short '\\' rfl (by decide) rfl
  split
  · next same => subst same; exact short 'b' rfl (by decide) rfl
  split
  · next same => subst same; exact short 'f' rfl (by decide) rfl
  split
  · next same => subst same; exact short 'n' rfl (by decide) rfl
  split
  · next same => subst same; exact short 'r' rfl (by decide) rfl
  split
  · next same => subst same; exact short 't' rfl (by decide) rfl
  split
  · next noQuote noEscape b f n r t small =>
    rw [readPieces_unit small, piece, if_pos]
    simp [small, b, f, n, r, t]
  · next noQuote noEscape b f n r t printable =>
    rw [List.map_cons, List.map_nil, List.singleton_append,
      readPieces_plain noQuote noEscape printable, piece, if_neg]
    simp [printable]

/-- The escapes of a text are read up to the closing quote. -/
theorem readPieces_flatMap_escape (text : List Char) (rest : Text) :
    readPieces ((text.flatMap escape).map some ++ some '"' :: rest) =
      some (text.map piece, rest) := by
  induction text with
  | nil => rfl
  | cons c more ih =>
    rw [List.flatMap_cons, List.map_append, List.append_assoc, readPieces_escape, ih]
    rfl

/-- A unit that is no half of a surrogate pair stands for its character. -/
theorem joinPieces_unit {n : Nat} (single : n < 0xD800) (pieces : List Piece) :
    joinPieces (.unit n :: pieces) = (joinPieces pieces).map (Char.ofNat n :: ·) := by
  have noHigh : ¬ 0xD800 ≤ n := by omega
  cases pieces with
  | nil => simp [joinPieces, noHigh]
  | cons next rest =>
    cases next with
    | char c =>
      simp only [joinPieces, noHigh, decide_false, Bool.false_and, Bool.false_eq_true, if_false]
      cases (do return (← c) :: (← joinPieces rest) : Option (List Char)) <;> rfl
    | unit low =>
      simp only [joinPieces, noHigh, decide_false, Bool.false_and, Bool.false_eq_true, if_false]
      cases joinPieces (.unit low :: rest) <;> rfl

/-- The pieces of a text stand for the text. -/
theorem joinPieces_map_piece (text : List Char) : joinPieces (text.map piece) = some text := by
  induction text with
  | nil => rfl
  | cons c more ih =>
    rw [List.map_cons, piece]
    split
    · next control =>
      have small : c.toNat < 0x20 := by
        simp only [Bool.and_eq_true, decide_eq_true_eq] at control
        exact control.1
      rw [joinPieces_unit (by omega), ih, Char.ofNat_toNat]
      rfl
    · simp [joinPieces, ih]

/-- **A text in quotes is read as this text.** -/
theorem readString_quoted (text : List Char) (rest : Text) :
    readString ((text.flatMap escape ++ ['"']).map some ++ rest) = some (some text, rest) := by
  have same : (text.flatMap escape ++ ['"']).map some ++ rest =
      (text.flatMap escape).map some ++ some '"' :: rest := by simp
  rw [same, readString, readPieces_flatMap_escape, Option.map_some]
  simp only [joinPieces_map_piece]

end Orthography.Json
