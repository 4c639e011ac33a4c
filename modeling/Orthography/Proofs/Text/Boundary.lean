import Mathlib.Order.Bounds.Defs
import Orthography.Proofs.Guarded.Text

/-!
# Columns lead back to characters

Between two characters of a line, and at its ends, there are so many bytes before and so many units
before.  A column stands for the first such place that has at least that many units before it
(`Columns.byteOffset_isLeast`), or for the end of the line if no place has
(`Columns.byteOffset_of_unreached`).

All else follows from where a front of the line ends.  Its width leads back to its end, and so do the
columns inside the last character of the front (`Columns.byteOffset_inside`): a column between the two
units of a character is rounded up.  Texts between columns that are in order can be joined
(`Columns.slice_append_slice`).

The units of a line that is not too long fit 32 bits, and then nothing of this is lost when they are
counted in 32 bits (`Columns.columns_lead_back`).
-/

namespace Orthography.Columns

set_option autoImplicit false

variable {line : List Char} {column : Nat}

/-! ## Places between characters -/

/-- The byte offsets between two characters of a line, or at one of its ends, that have at least as many
units before them as a column says. -/
def reaching (line : List Char) (column : Nat) : Set Nat :=
  {offset | ∃ front, front <+: line ∧ byteLength front = offset ∧ column ≤ width front}

/-- A front of a text has no more bytes than the text. -/
theorem byteLength_le_of_isPrefix {front text : List Char} (isFront : front <+: text) :
    byteLength front ≤ byteLength text := by
  obtain ⟨back, rfl⟩ := isFront
  rw [byteLength_append]
  exact Nat.le_add_right _ _

/-- A front of a text has no more units than the text. -/
theorem width_le_of_isPrefix {front text : List Char} (isFront : front <+: text) :
    width front ≤ width text := by
  obtain ⟨back, rfl⟩ := isFront
  rw [width_append]
  exact Nat.le_add_right _ _

/-- What a column cuts off is a front of the line. -/
theorem cut_isPrefix_line (line : List Char) (column : Nat) : (cut column line).1 <+: line :=
  ⟨(cut column line).2, cut_append column line⟩

/-- A column cuts off no more than any front that reaches it. -/
theorem cut_isPrefix_of_reached {front : List Char} (isFront : front <+: line)
    (reached : column ≤ width front) : (cut column line).1 <+: front := by
  obtain ⟨back, rfl⟩ := isFront
  have less := cut_isPrefix reached (front ++ back)
  rwa [cut_width_append] at less

/-- What a column cuts off reaches the column, if any front of the line does. -/
theorem le_width_cut_of_reached {front : List Char} (isFront : front <+: line)
    (reached : column ≤ width front) : column ≤ width (cut column line).1 := by
  rcases le_width_cut column line with within | all
  · exact within
  · -- Then the whole line is cut off, and it has at least the units of the front.
    have whole := cut_append column line
    rw [all, List.append_nil] at whole
    rw [whole]
    exact Nat.le_trans reached (width_le_of_isPrefix isFront)

/-- **A column stands for the first place that reaches it.** -/
theorem byteOffset_isLeast (reached : (reaching line column).Nonempty) :
    IsLeast (reaching line column) (byteOffset line column) := by
  obtain ⟨-, front, isFront, -, far⟩ := reached
  constructor
  · exact ⟨(cut column line).1, cut_isPrefix_line line column, rfl,
      le_width_cut_of_reached isFront far⟩
  · rintro offset ⟨other, isOther, rfl, enough⟩
    exact byteLength_le_of_isPrefix (cut_isPrefix_of_reached isOther enough)

/-- A column that no place reaches stands for the end of the line. -/
theorem byteOffset_of_unreached (unreached : reaching line column = ∅) :
    byteOffset line column = byteLength line := by
  have short : ¬column ≤ width (cut column line).1 := by
    intro within
    have place : byteOffset line column ∈ reaching line column :=
      ⟨(cut column line).1, cut_isPrefix_line line column, rfl, within⟩
    rw [unreached] at place
    exact place
  have whole := cut_append column line
  rw [(le_width_cut column line).resolve_left short, List.append_nil] at whole
  rw [byteOffset, whole]

/-! ## Fronts of a line -/

/-- A column past a front cuts what comes after it. -/
theorem cut_width_add (front back : List Char) (more : Nat) :
    cut (width front + more) (front ++ back) = (front ++ (cut more back).1, (cut more back).2) := by
  induction front with
  | nil => rw [width, Nat.zero_add, List.nil_append, List.nil_append]
  | cons c rest ih => rw [width, Nat.add_assoc, List.cons_append, cut_units_add, ih, List.cons_append]

/-- The width of a front leads back to its end. -/
theorem byteOffset_width {front : List Char} (isFront : front <+: line) :
    byteOffset line (width front) = byteLength front := by
  obtain ⟨back, rfl⟩ := isFront
  rw [byteOffset, cut_width_append]

/-- A column inside a character, or right after it, cuts off the character. -/
theorem cut_inside {c : Char} (inside : column + 1 ≤ units c) (rest : List Char) :
    cut (column + 1) (c :: rest) = ([c], rest) := by
  rw [cut, Nat.sub_eq_zero_of_le inside, cut_zero]

/-- **A column inside a character is rounded up** to the end of the character. -/
theorem byteOffset_inside {front back : List Char} {c : Char} {more : Nat} (some : 0 < more)
    (inside : more ≤ units c) :
    byteOffset (front ++ c :: back) (width front + more) = byteLength (front ++ [c]) := by
  obtain ⟨column, rfl⟩ := Nat.exists_eq_add_one.mpr some
  rw [byteOffset, cut_width_add, cut_inside inside]

/-! ## Texts between columns -/

/-- The text between two columns stands between their offsets, the second one brought behind the first
one. -/
theorem exists_eq_slice (line : List Char) (start stop : Nat) :
    ∃ front back, line = front ++ slice line start stop ++ back ∧
      byteLength front = byteOffset line start ∧
      byteLength (front ++ slice line start stop)
        = max (byteOffset line stop) (byteOffset line start) := by
  refine ⟨(cut start line).1, (cut (max start stop) line).2, ?_, rfl, ?_⟩
  · exact (append_slice_append line start stop).symm
  · have parts := append_slice_append line start stop
    have cuts := cut_append (max start stop) line
    have same : (cut start line).1 ++ slice line start stop = (cut (max start stop) line).1 :=
      List.append_cancel_right (parts.trans cuts.symm)
    rw [same, Guarded.max_byteOffset, byteOffset]

/-- **Texts between columns that are in order can be joined.** -/
theorem slice_append_slice (line : List Char) {first second third : Nat} (before : first ≤ second)
    (after : second ≤ third) :
    slice line first second ++ slice line second third = slice line first third := by
  obtain ⟨middle, upTo⟩ := cut_isPrefix before line
  obtain ⟨last, further⟩ := cut_isPrefix after line
  rw [slice, slice, slice, ← further, ← upTo, List.append_assoc, List.drop_left, List.drop_left,
    ← List.append_assoc, List.drop_left]

/-- The text between the first column and the width of a line is the line. -/
theorem slice_whole (line : List Char) : slice line 0 (width line) = line := by
  have whole := slice_between [] line []
  rwa [List.nil_append, List.append_nil, width, Nat.zero_add] at whole

/-! ## Columns in 32 bits -/

/-- What it means that the columns of a line lead back to its characters. -/
structure LeadBack (line : List Char) : Prop where
  /-- A column stands for the first place that reaches it, -/
  least : ∀ column, (reaching line column).Nonempty →
    IsLeast (reaching line column) (byteOffset line column)
  /-- or else for the end of the line. -/
  unreached : ∀ column, reaching line column = ∅ → byteOffset line column = byteLength line
  monotone : ∀ first second, first ≤ second → byteOffset line first ≤ byteOffset line second
  /-- The width of a front leads back to the end of the front. -/
  width : ∀ front, front <+: line → byteOffset line (width front) = byteLength front
  /-- A column between the two units of a character is rounded up. -/
  between : ∀ front c back, line = front ++ c :: back → units c = 2 →
    byteOffset line (Columns.width front + 1) = byteLength (front ++ [c])
  /-- The text between two columns stands between their offsets. -/
  slice : ∀ start stop, ∃ front back, line = front ++ slice line start stop ++ back ∧
    byteLength front = byteOffset line start ∧
    byteLength (front ++ Columns.slice line start stop)
      = max (byteOffset line stop) (byteOffset line start)
  join : ∀ first second third, first ≤ second → second ≤ third →
    Columns.slice line first second ++ Columns.slice line second third
      = Columns.slice line first third
  whole : Columns.slice line 0 (Columns.width line) = line

/-- What it means that the columns of a line can be counted in 32 bits. -/
structure Countable (line : List Char) : Prop where
  width : ∀ front, front <+: line → Guarded.width32 front = some (width front)
  byteOffset : ∀ column, Guarded.byteOffset line column = some (byteOffset line column)
  slice : ∀ start stop, Guarded.slice line start stop = some (slice line start stop)

/-- The columns of every line lead back to its characters. -/
theorem leadBack (line : List Char) : LeadBack line where
  least column := byteOffset_isLeast
  unreached column := byteOffset_of_unreached
  monotone first second le := byteOffset_mono le line
  width front := byteOffset_width
  between := by
    rintro front c back rfl pair
    apply byteOffset_inside Nat.one_pos
    omega
  slice := exists_eq_slice line
  join first second third := slice_append_slice line
  whole := slice_whole line

/-- **The columns of a line lead back to its characters**, and are counted in 32 bits without a loss as
long as the units of the line fit 32 bits. -/
theorem columns_lead_back {line : List Char} (narrow : width line < Nat.pow 2 32) :
    LeadBack line ∧ Countable line := by
  refine ⟨leadBack line, ?width, ?byteOffset, ?slice⟩
  case width =>
    intro front isFront
    exact Guarded.width32_eq (Nat.lt_of_le_of_lt (width_le_of_isPrefix isFront) narrow)
  case byteOffset =>
    intro column
    exact Guarded.byteOffset_eq (Guarded.findable_of_narrow narrow column)
  case slice =>
    intro start stop
    exact Guarded.slice_eq (Guarded.findable_of_narrow narrow start)
      (Guarded.findable_of_narrow narrow stop)

/-- A line with characters of one, two, three and four bytes, the last of which takes two units.  The
columns before, inside and behind it, and past the end of the line, are led back. -/
theorem columns_lead_back_surrogate :
    let line := ['a', '𝗛', 'é', '—']
    width line < Nat.pow 2 32 ∧
      (List.range 8).map (byteOffset line) = [0, 1, 5, 5, 7, 10, 10, 10] ∧
      Guarded.byteOffset line 2 = some 5 ∧
      slice line 0 2 ++ slice line 2 4 = slice line 0 4 ∧ slice line 0 4 = ['a', '𝗛', 'é'] := by
  have narrow : width ['a', '𝗛', 'é', '—'] < Nat.pow 2 32 := by decide
  obtain ⟨back, counted⟩ := columns_lead_back narrow
  exact ⟨narrow, by decide, counted.byteOffset 2, back.join 0 2 4 (by decide) (by decide),
    by decide⟩

end Orthography.Columns
