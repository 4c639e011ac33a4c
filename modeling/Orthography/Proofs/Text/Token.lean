import Orthography.Proofs.Text.Columns
import Orthography.Proofs.Text.Segment
import Orthography.Text.Token

/-!
# Where tokens stand

The tokens of a line stand in it one after the other: each of them is the text between its own two
columns, and the text between two tokens belongs to none (`Laid`, `laid_ofLine`).  Leaving tokens
out keeps this (`Laid.filter`).

Substitution puts something else in the place of every token at the same time: the text between the
tokens is taken from the line as it was (`substitute`).
-/

namespace Orthography.Token

set_option autoImplicit false

/-- Tokens that stand one after the other in a text, the text starting at a column.  What stands
before the first token and between two tokens is a *gap*; what stands after the last one is free. -/
inductive Laid : List Char → Nat → List Token → Prop where
  | none (text : List Char) (column : Nat) : Laid text column []
  | next (gap : List Char) {token : Token} {rest : List Char} {column : Nat} {tokens : List Token}
      (letters : token.text.toList ≠ [])
      (start : token.start = column + Columns.width gap)
      (stop : token.stop = token.start + Columns.width token.text.toList)
      (after : Laid rest token.stop tokens) :
      Laid (gap ++ token.text.toList ++ rest) column (token :: tokens)

/-- More text in front of the first token widens its gap. -/
theorem Laid.widen {text : List Char} {column : Nat} {tokens : List Token} (gap : List Char)
    (laid : Laid text (column + Columns.width gap) tokens) : Laid (gap ++ text) column tokens := by
  cases laid with
  | none text => exact Laid.none (gap ++ text) column
  | next inner letters start stop after =>
    rw [← List.append_assoc, ← List.append_assoc]
    refine Laid.next (gap ++ inner) letters ?_ stop after
    rw [start, Columns.width_append, Nat.add_assoc]

/-- Some of the tokens that stand in a text stand in it by themselves. -/
theorem Laid.filter {text : List Char} {column : Nat} {tokens : List Token}
    (laid : Laid text column tokens) (keeps : Token → Bool) :
    Laid text column (tokens.filter keeps) := by
  induction laid with
  | none text column => exact Laid.none text column
  | @next gap token rest column tokens letters start stop after ih =>
    cases kept : keeps token with
    | true =>
      rw [List.filter_cons_of_pos kept]
      exact Laid.next gap letters start stop ih
    | false =>
      rw [List.filter_cons_of_neg (Bool.eq_false_iff.mp kept)]
      apply Laid.widen
      rwa [Columns.width_append, ← Nat.add_assoc, ← start, ← stop]

/-- A token that stands in a text starts before it stops. -/
theorem Laid.start_le_stop {text : List Char} {column : Nat} {tokens : List Token}
    (laid : Laid text column tokens) {token : Token} (member : token ∈ tokens) :
    token.start ≤ token.stop := by
  induction laid with
  | none => cases member
  | next gap letters start stop after ih =>
    cases member with
    | head => omega
    | tail first later => exact ih later

/-- A token whose columns are those of the text right after the front of a line. -/
structure StandsAfter (token : Token) (front : List Char) : Prop where
  letters : token.text.toList ≠ []
  start : token.start = Columns.width front
  stop : token.stop = Columns.width front + Columns.width token.text.toList

/-- Each of the tokens that stand in the rest of a line stands somewhere in the line. -/
theorem Laid.exists_front {text : List Char} {column : Nat} {tokens : List Token}
    (laid : Laid text column tokens) {front : List Char} (wide : Columns.width front = column)
    {token : Token} (member : token ∈ tokens) :
    ∃ before after, front ++ text = before ++ token.text.toList ++ after
      ∧ token.StandsAfter before := by
  induction laid generalizing front with
  | none => cases member
  | @next gap first rest column tokens letters start stop after ih =>
    have place : first.StandsAfter (front ++ gap) :=
      ⟨letters, by rw [start, Columns.width_append, wide],
        by rw [stop, start, Columns.width_append, wide]⟩
    cases member with
    | head => exact ⟨front ++ gap, rest, by simp only [List.append_assoc], place⟩
    | tail _ later =>
      have further : Columns.width (front ++ gap ++ first.text.toList) = first.stop := by
        rw [Columns.width_append, place.stop]
      obtain ⟨before, behind, whole, stands⟩ := ih further later
      exact ⟨before, behind, by rw [← whole]; simp only [List.append_assoc], stands⟩

/-- A word has letters. -/
theorem ne_nil_of_isWord {segment : List Char} (word : isWord segment = true) : segment ≠ [] := by
  rintro rfl
  exact Bool.false_ne_true word

/-- The tokens among segments stand where the segments stand. -/
theorem laid_ofSegments (segments : List (List Char)) (byte column : Nat) :
    Laid segments.flatten column (ofSegments byte column segments) := by
  induction segments generalizing byte column with
  | nil => exact Laid.none [] column
  | cons segment rest ih =>
    rw [List.flatten_cons, ofSegments]
    split
    · next word =>
      have letters : (String.ofList segment).toList ≠ [] := by
        rw [String.toList_ofList]
        exact ne_nil_of_isWord word
      have width : column + Columns.width segment
          = column + Columns.width (String.ofList segment).toList := by
        rw [String.toList_ofList]
      have here := @Laid.next [] ⟨String.ofList segment, byte, column,
        column + Columns.width segment⟩ rest.flatten column _ letters rfl width
        (ih (byte + Columns.byteLength segment) _)
      rwa [List.nil_append, String.toList_ofList] at here
    · exact Laid.widen segment (ih _ _)

/-- **The tokens of a line stand in it one after the other.** -/
theorem laid_ofLine (line : String) : Laid line.toList 0 (ofLine line) := by
  have laid := laid_ofSegments (Segment.ofLine line.toList) 0 0
  rwa [Segment.flatten_ofLine] at laid

/-! ## Simultaneous substitution -/

variable (replacement : Token → String)

/-- A line from a column on, with tokens that stand there replaced and all else taken from the
line. -/
def substituteFrom (line : List Char) (column : Nat) : List Token → List Char
  | [] => (Columns.cut column line).2
  | token :: rest =>
    Columns.slice line column token.start ++ (replacement token).toList
      ++ substituteFrom line token.stop rest

/-- A line with tokens of it replaced, all at the same time. -/
def substitute (line : String) (tokens : List Token) : String :=
  String.ofList (substituteFrom replacement line.toList 0 tokens)

variable {front : List Char} {column : Nat}

/-- With no token left, the rest of the line stays. -/
theorem substituteFrom_none (text : List Char) (wide : Columns.width front = column) :
    substituteFrom replacement (front ++ text) column [] = text := by
  rw [← wide, substituteFrom, Columns.cut_width_append]

/-- The first token is replaced, and the gap before it stays. -/
theorem substituteFrom_next (gap rest : List Char) {token : Token} (tokens : List Token)
    (wide : Columns.width front = column) (start : token.start = column + Columns.width gap) :
    substituteFrom replacement (front ++ (gap ++ token.text.toList ++ rest)) column
        (token :: tokens)
      = gap ++ (replacement token).toList
        ++ substituteFrom replacement (front ++ gap ++ token.text.toList ++ rest) token.stop
          tokens := by
  have parts : front ++ (gap ++ token.text.toList ++ rest)
      = front ++ gap ++ (token.text.toList ++ rest) := by
    simp only [List.append_assoc]
  have kept : Columns.slice (front ++ gap ++ (token.text.toList ++ rest)) column token.start
      = gap := by
    rw [start, ← wide, Columns.slice_between]
  rw [parts, substituteFrom, kept, List.append_assoc (front ++ gap)]

/-- Replacing tokens by themselves changes nothing. -/
theorem substituteFrom_self {text : List Char} {tokens : List Token}
    (laid : Laid text column tokens) (same : ∀ token ∈ tokens, replacement token = token.text)
    (wide : Columns.width front = column) :
    substituteFrom replacement (front ++ text) column tokens = text := by
  induction laid generalizing front with
  | none text column => exact substituteFrom_none replacement text wide
  | @next gap token rest column tokens letters start stop after ih =>
    have further : Columns.width (front ++ gap ++ token.text.toList) = token.stop := by
      rw [Columns.width_append, Columns.width_append, wide, stop, start]
    rw [substituteFrom_next replacement gap rest tokens wide start,
      ih (fun later member => same later (List.mem_cons_of_mem token member)) further,
      same token List.mem_cons_self]

/-- Replacing the tokens of a line by themselves leaves the line as it is. -/
theorem substitute_self {line : String} {tokens : List Token} (laid : Laid line.toList 0 tokens)
    (same : ∀ token ∈ tokens, replacement token = token.text) :
    substitute replacement line tokens = line := by
  have nothing : Columns.width [] = 0 := rfl
  have whole := substituteFrom_self replacement laid same nothing
  rw [List.nil_append] at whole
  rw [substitute, whole, String.ofList_toList]

end Orthography.Token
