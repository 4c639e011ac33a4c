import Orthography.Text.Columns

/-!
# Cutting a line between characters

A column that is the width of some front of a line cuts off that front (`cut_width_append`).  So the
text between two such columns is the middle part of the line, and replacing it keeps what stands to
its left and to its right (`slice_between`, `splice_between`).

Other columns, inside a character or past the end of the line, cut it as well: whatever two columns are,
the line is what the first one cuts off, what stands between them and what the second one leaves
(`append_slice_append`).
-/

namespace Orthography.Columns

set_option autoImplicit false

/-- Every character takes one unit at least. -/
theorem units_pos (c : Char) : 0 < units c := by
  unfold units
  split
  · exact Nat.one_pos
  · exact Nat.two_pos

/-- A text with a character in it takes some columns. -/
theorem width_pos {text : List Char} (letters : text ≠ []) : 0 < width text := by
  cases text with
  | nil => exact absurd rfl letters
  | cons c rest =>
    have first := units_pos c
    rw [width]
    omega

/-- A line takes the units of its parts. -/
@[simp] theorem width_append (front back : List Char) :
    width (front ++ back) = width front + width back := by
  induction front with
  | nil => exact (Nat.zero_add _).symm
  | cons c rest ih => rw [List.cons_append, width, width, ih, Nat.add_assoc]

/-- The first column cuts off nothing. -/
@[simp] theorem cut_zero (line : List Char) : cut 0 line = ([], line) := by
  cases line with
  | nil => rfl
  | cons c rest => rfl

/-- A column past the first character cuts the rest of the line. -/
theorem cut_units_add (c : Char) (column : Nat) (rest : List Char) :
    cut (units c + column) (c :: rest)
      = (c :: (cut column rest).1, (cut column rest).2) := by
  obtain ⟨before, size⟩ : ∃ before, units c = before + 1 :=
    Nat.exists_eq_add_one.mpr (units_pos c)
  have past : units c + column = before + column + 1 := by omega
  have left : before + column + 1 - units c = column := by omega
  rw [past, cut, left]

/-- The column at the width of a front cuts off that front. -/
@[simp] theorem cut_width_append (front back : List Char) :
    cut (width front) (front ++ back) = (front, back) := by
  induction front with
  | nil => exact cut_zero back
  | cons c rest ih => rw [List.cons_append, width, cut_units_add, ih]

/-- The two parts of a line make up the line. -/
theorem cut_append (column : Nat) (line : List Char) :
    (cut column line).1 ++ (cut column line).2 = line := by
  induction column, line using cut.induct with
  | case1 => rfl
  | case2 line => rw [cut_zero, List.nil_append]
  | case3 column c rest ih => rw [cut, List.cons_append, ih]

/-- A greater column cuts off more. -/
theorem cut_isPrefix {first second : Nat} (le : first ≤ second) (line : List Char) :
    (cut first line).1 <+: (cut second line).1 := by
  induction line generalizing first second with
  | nil => cases first <;> cases second <;> exact List.nil_prefix
  | cons c rest ih =>
    cases first with
    | zero => exact List.nil_prefix
    | succ first =>
      cases second with
      | zero => exact absurd le (Nat.not_succ_le_zero first)
      | succ second => exact (List.prefix_cons_inj c).mpr (ih (Nat.sub_le_sub_right le (units c)))

/-- Two columns cut a line into three parts. -/
theorem exists_parts {first second : Nat} (le : first ≤ second) (line : List Char) :
    ∃ front middle back, line = front ++ middle ++ back ∧
      (cut first line).1 = front ∧ (cut second line) = (front ++ middle, back) := by
  obtain ⟨middle, whole⟩ := cut_isPrefix le line
  refine ⟨(cut first line).1, middle, (cut second line).2, ?_, rfl, ?_⟩
  · rw [whole, cut_append]
  · rw [whole]

/-- A line is what comes before two columns, what is between them and what comes after both, in any
order of the columns. -/
theorem append_slice_append (line : List Char) (start stop : Nat) :
    (cut start line).1 ++ slice line start stop ++ (cut (max start stop) line).2 = line := by
  rcases Nat.le_total start stop with le | ge
  · obtain ⟨front, middle, back, whole, first, second⟩ := exists_parts le line
    rw [slice, Nat.max_eq_right le, first, second, List.drop_left, ← whole]
  · have nothing : slice line start stop = [] :=
      List.drop_eq_nil_of_le (cut_isPrefix ge line).length_le
    rw [nothing, Nat.max_eq_left ge, List.append_nil, cut_append]

/-- The text between the columns at the two ends of a part is that part. -/
theorem slice_between (front middle back : List Char) :
    slice (front ++ middle ++ back) (width front) (width front + width middle) = middle := by
  have stop : cut (width front + width middle) (front ++ middle ++ back)
      = (front ++ middle, back) := by
    rw [← width_append, cut_width_append]
  rw [slice, stop, List.append_assoc front, cut_width_append, List.drop_left]

/-- Replacing the text between the columns at the two ends of a part replaces that part and keeps
all else. -/
theorem splice_between (front middle back replacement : List Char) :
    splice (front ++ middle ++ back) (width front) (width front + width middle) replacement
      = front ++ replacement ++ back := by
  have stop : cut (width front + width middle) (front ++ middle ++ back)
      = (front ++ middle, back) := by
    rw [← width_append, cut_width_append]
  rw [splice, Nat.max_eq_right (Nat.le_add_right _ _), stop, List.append_assoc front,
    cut_width_append]

end Orthography.Columns
