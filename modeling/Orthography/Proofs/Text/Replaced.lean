import Orthography.Proofs.Text.Replacement
import Orthography.Proofs.Word.Edges
import Mathlib.Algebra.Order.BigOperators.Group.List
import Mathlib.Algebra.Order.Group.Nat

/-!
# What a replacement leaves alone

When tokens of a text are replaced, what stands before, between and after them stays
(`Token.Replaced`).  This says where the replacements go, and nothing about what is inside a token.
Replacing a token by its bytes and replacing tokens all at once are both of this form
(`Token.replaced_replace`, `Token.replaced_substitute`), and tokens that are replaced by themselves
need not be counted (`Token.Replaced.filter`).

A token is not the same as the word that it stands for: white space and punctuation at its edges are
part of the token, but not of the surface form.  They would stay if only the surface form were replaced
(`Word.withSurface`).  Replacing whole tokens comes to the same exactly when no token has any of them
(`Token.Replaced.surfaceOnly_iff`), since otherwise the text becomes shorter.
-/

namespace Orthography

set_option autoImplicit false

/-! ## The surface form within a word -/

namespace Word

/-- The white space and punctuation before the surface form of a word. -/
def leading (word : String) : String :=
  String.ofList (word.toList.takeWhile isEdge)

/-- The white space and punctuation after the surface form of a word. -/
def trailing (word : String) : String :=
  String.ofList ((word.toList.dropWhile isEdge).rtakeWhile isEdge)

/-- A word with something else in the place of its surface form. -/
def withSurface (word replacement : String) : String :=
  leading word ++ replacement ++ trailing word

variable (word replacement : String)

/-- A word with its surface form in the place of its surface form is the word. -/
theorem withSurface_surface : withSurface word (surface word) = word := by
  rw [withSurface, leading, surface, surfaceChars, trimBy_eq_rdropWhile, trailing,
    ← String.ofList_append, ← String.ofList_append, List.append_assoc,
    List.rdropWhile_append_rtakeWhile, List.takeWhile_append_dropWhile, String.ofList_toList]

/-- What is around the surface form adds to the length. -/
theorem length_withSurface :
    (withSurface word replacement).length
      = (leading word).length + replacement.length + (trailing word).length := by
  rw [withSurface, String.length_append, String.length_append]

/-- A word has nothing around its surface form exactly when it is its own surface form. -/
theorem surface_eq_self_iff :
    surface word = word ↔ (leading word).length = 0 ∧ (trailing word).length = 0 := by
  have whole := withSurface_surface word
  have length := length_withSurface word (surface word)
  rw [whole] at length
  constructor
  · intro same
    rw [same] at length
    omega
  · rintro ⟨front, back⟩
    rw [withSurface, String.length_eq_zero_iff.mp front, String.length_eq_zero_iff.mp back] at whole
    simpa using whole

/-- Replacing the surface form of a word replaces the word exactly when it is its own surface
form. -/
theorem withSurface_eq_iff : withSurface word replacement = replacement ↔ surface word = word := by
  rw [surface_eq_self_iff]
  constructor
  · intro same
    have length := length_withSurface word replacement
    rw [same] at length
    omega
  · rintro ⟨front, back⟩
    rw [withSurface, String.length_eq_zero_iff.mp front, String.length_eq_zero_iff.mp back]
    simp

/-- Replacing the surface form gives no less than replacing the word. -/
theorem length_le_withSurface : replacement.length ≤ (withSurface word replacement).length := by
  rw [length_withSurface]
  omega

/-- It gives more when the word is not its own surface form. -/
theorem length_lt_withSurface (more : surface word ≠ word) :
    replacement.length < (withSurface word replacement).length := by
  rw [ne_eq, surface_eq_self_iff] at more
  rw [length_withSurface]
  omega

end Word

namespace Token

/-! ## Texts that differ in tokens only -/

/-- A text from a column on, with tokens that stand in it, and what it becomes when they are replaced.
What stands before, between and after the tokens is the same in both. -/
inductive Replaced (replacement : Token → String) :
    List Char → Nat → List Token → List Char → Prop where
  | none (text : List Char) (column : Nat) : Replaced replacement text column [] text
  | next (gap : List Char) {token : Token} {rest : List Char} {column : Nat} {tokens : List Token}
      {after : List Char} (start : token.start = column + Columns.width gap)
      (stop : token.stop = token.start + Columns.width token.text.toList)
      (further : Replaced replacement rest token.stop tokens after) :
      Replaced replacement (gap ++ token.text.toList ++ rest) column (token :: tokens)
        (gap ++ (replacement token).toList ++ after)

variable {replacement : Token → String} {text after : List Char} {column : Nat}
  {tokens : List Token}

/-- More text in front of the first token stays as well. -/
theorem Replaced.widen (gap : List Char)
    (replaced : Replaced replacement text (column + Columns.width gap) tokens after) :
    Replaced replacement (gap ++ text) column tokens (gap ++ after) := by
  cases replaced with
  | none => exact Replaced.none (gap ++ text) column
  | next inner start stop further =>
    simp only [← List.append_assoc]
    refine Replaced.next (gap ++ inner) ?_ stop further
    rw [start, Columns.width_append, Nat.add_assoc]

/-- Tokens that are replaced by themselves need not be counted. -/
theorem Replaced.filter (replaced : Replaced replacement text column tokens after)
    (counts : Token → Bool)
    (same : ∀ token ∈ tokens, counts token = false → replacement token = token.text) :
    Replaced replacement text column (tokens.filter counts) after := by
  induction replaced with
  | none text column => exact Replaced.none text column
  | @next gap token rest column tokens after start stop further ih =>
    have later := ih fun other member => same other (List.mem_cons_of_mem token member)
    cases counted : counts token with
    | true =>
      rw [List.filter_cons_of_pos counted]
      exact Replaced.next gap start stop later
    | false =>
      rw [List.filter_cons_of_neg (Bool.eq_false_iff.mp counted),
        same token List.mem_cons_self counted]
      apply Replaced.widen
      rwa [Columns.width_append, ← Nat.add_assoc, ← start, ← stop]

/-- Only the replacements of the tokens themselves matter. -/
theorem Replaced.congr (replaced : Replaced replacement text column tokens after)
    {other : Token → String} (same : ∀ token ∈ tokens, other token = replacement token) :
    Replaced other text column tokens after := by
  induction replaced with
  | none text column => exact Replaced.none text column
  | @next gap token rest column tokens after start stop further ih =>
    have later := ih fun next member => same next (List.mem_cons_of_mem token member)
    rw [← same token List.mem_cons_self]
    exact Replaced.next gap start stop later

/-- The text grows by the replacements and shrinks by the tokens. -/
theorem Replaced.length_eq (replaced : Replaced replacement text column tokens after) :
    after.length + (tokens.flatMap fun token => token.text.toList).length
      = text.length + (tokens.flatMap fun token => (replacement token).toList).length := by
  induction replaced with
  | none => rfl
  | next gap start stop further ih =>
    simp only [List.flatMap_cons, List.length_append]
    omega

/-- **Replacing whole tokens comes to replacing their surface forms exactly when every token is its
own surface form.**  Any other token would be followed by a longer text. -/
theorem Replaced.surfaceOnly_iff (replaced : Replaced replacement text column tokens after) :
    Replaced (fun token => Word.withSurface token.text (replacement token)) text column tokens after
      ↔ ∀ token ∈ tokens, Word.surface token.text = token.text := by
  constructor
  · intro within
    by_contra! other
    obtain ⟨token, member, more⟩ := other
    have shorter := List.sum_lt_sum (fun token : Token => (replacement token).toList.length)
      (fun token => (Word.withSurface token.text (replacement token)).toList.length)
      (fun token _ => Word.length_le_withSurface token.text (replacement token))
      ⟨token, member, Word.length_lt_withSurface token.text (replacement token) more⟩
    rw [← List.length_flatMap, ← List.length_flatMap] at shorter
    have whole := replaced.length_eq
    have inner := within.length_eq
    omega
  · intro plain
    exact replaced.congr fun token member =>
      (Word.withSurface_eq_iff token.text (replacement token)).mpr (plain token member)

/-! ## Ways to replace tokens -/

variable (replacement)

/-- Replacing tokens of a text all at once keeps what is around them. -/
theorem replaced_substituteFrom (laid : Laid text column tokens) {front : List Char}
    (wide : Columns.width front = column) :
    Replaced replacement text column tokens
      (substituteFrom replacement (front ++ text) column tokens) := by
  induction laid generalizing front with
  | none text column =>
    rw [substituteFrom_none replacement text wide]
    exact Replaced.none text column
  | @next gap token rest column tokens letters start stop after ih =>
    have further : Columns.width (front ++ gap ++ token.text.toList) = token.stop := by
      rw [Columns.width_append, Columns.width_append, wide, stop, start]
    rw [substituteFrom_next replacement gap rest tokens wide start]
    exact Replaced.next gap start stop (ih further)

/-- Replacing tokens of a line all at once keeps what is around them. -/
theorem replaced_substitute {line : String} (laid : Laid line.toList 0 tokens) :
    Replaced replacement line.toList 0 tokens (substitute replacement line tokens).toList := by
  have nothing : Columns.width [] = 0 := rfl
  rw [substitute, String.toList_ofList]
  exact replaced_substituteFrom replacement laid nothing

/-- Replacing a token of a line by its bytes keeps what is around it. -/
theorem replaced_replace {line : String} {token : Token} (member : token ∈ ofLine line)
    (correction : String) :
    Replaced (fun _ => correction) line.toList 0 [token] (token.replace line correction).toList := by
  obtain ⟨front, back, whole, stands, replaced⟩ := exists_replace_eq member
  rw [replaced, whole, String.toList_ofList, String.toList_ofList]
  refine Replaced.next front ?_ ?_ (Replaced.none back token.stop)
  · rw [stands.start, Nat.zero_add]
  · rw [stands.stop, stands.start]

end Token

end Orthography
