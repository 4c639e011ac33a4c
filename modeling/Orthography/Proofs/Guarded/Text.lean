import Orthography.Proofs.Text.Replacement

/-!
# Cutting texts on guard

A program that is run on a machine stops where a definition goes on: at a sum that does not fit its
word, at an offset that lies inside a character, at a place that a list does not have.  A *guarded*
operation does the same as the operation that it stands for and gives nothing where the program would
stop.  That it gives something, for whatever it is called with, says that the program never does.

Here are sums, and cuts of a line by bytes and by columns.  A column is looked for from the left, with
its units counted in 32 bits.  The count never gets further than the column, so the search ends if
the line up to the column can be counted (`Guarded.Findable`), and then the offset lies between two
characters and the line can be cut there (`Guarded.byteOffset_eq`, `Guarded.splitAt_byteOffset`).
Columns that are reversed or past the end are brought into order first, so that every two columns can
be cut out (`Guarded.slice_eq`) and replaced (`Guarded.splice_eq`).
-/

namespace Orthography

set_option autoImplicit false

open Columns (units width byteLength cut)

/-! ## Parts of a line -/

namespace Columns

/-- A character takes two units at most. -/
theorem units_le (c : Char) : units c ≤ 2 := by
  unfold units
  split <;> omega

/-- What a column cuts off reaches the column, or it is the whole line. -/
theorem le_width_cut (column : Nat) (line : List Char) :
    column ≤ width (cut column line).1 ∨ (cut column line).2 = [] := by
  induction column, line using cut.induct with
  | case1 column => exact .inr rfl
  | case2 line => exact .inl (Nat.zero_le _)
  | case3 column c rest ih =>
    rw [cut, width]
    exact ih.imp_left (by omega)

/-- What a column cuts off goes one unit past the column at most: if the column is inside a
character. -/
theorem width_cut_le (column : Nat) (line : List Char) :
    width (cut column line).1 ≤ column + 1 := by
  induction column, line using cut.induct with
  | case1 column => exact Nat.zero_le _
  | case2 line => rw [cut_zero]; exact Nat.zero_le _
  | case3 column c rest ih =>
    rw [cut, width]
    rcases Nat.lt_or_ge (column + 1) (units c) with inside | after
    · have two := units_le c
      have nothing : column + 1 - units c = 0 := by omega
      rw [nothing, cut_zero, width]
      omega
    · omega

/-- A greater column is at no smaller offset. -/
theorem byteOffset_mono {first second : Nat} (le : first ≤ second) (line : List Char) :
    byteOffset line first ≤ byteOffset line second := by
  obtain ⟨more, whole⟩ := cut_isPrefix le line
  rw [byteOffset, byteOffset, ← whole, byteLength_append]
  exact Nat.le_add_right _ _

end Columns

namespace Guarded

/-! ## Numbers -/

/-- The sum of two numbers, if it fits so many bits. -/
def sum (bits a b : Nat) : Option Nat :=
  if a + b < Nat.pow 2 bits then some (a + b) else none

theorem sum_eq {bits a b : Nat} (small : a + b < Nat.pow 2 bits) : sum bits a b = some (a + b) :=
  if_pos small

/-- A number less another one, if it is not smaller. -/
def difference (a b : Nat) : Option Nat :=
  if b ≤ a then some (a - b) else none

theorem difference_eq {a b : Nat} (le : b ≤ a) : difference a b = some (a - b) :=
  if_pos le

/-- A count after something is added to it, if it is not greater than the number of things that are
there, such as the bytes of a text.  These are held in memory all together, so that a count of them
fits a word of the machine. -/
def count (things a b : Nat) : Option Nat :=
  if a + b ≤ things then some (a + b) else none

theorem count_eq {things a b : Nat} (le : a + b ≤ things) : count things a b = some (a + b) :=
  if_pos le

/-! ## Cuts by bytes -/

/-- The parts of a text before and after a byte offset, if that lies between two characters or at
one of the ends. -/
def splitAt : Nat → List Char → Option (List Char × List Char)
  | 0, text => some ([], text)
  | _ + 1, [] => none
  | offset + 1, c :: rest =>
    if c.utf8Size ≤ offset + 1 then
      (splitAt (offset + 1 - c.utf8Size) rest).map fun parts => (c :: parts.1, parts.2)
    else none

/-- The part of a text between two byte offsets, if they are in order and the text can be cut at
both. -/
def between (text : List Char) (start stop : Nat) : Option (List Char) :=
  if start ≤ stop then do
    let before ← splitAt stop text
    let parts ← splitAt start before.1
    return parts.2
  else none

/-- A text with the part between two byte offsets replaced, if they are in order and the text can be
cut at both. -/
def replaceBetween (text : List Char) (start stop : Nat) (replacement : List Char) :
    Option (List Char) :=
  if start ≤ stop then do
    let before ← splitAt start text
    let after ← splitAt stop text
    return before.1 ++ replacement ++ after.2
  else none

/-- A text can be cut behind any part of it. -/
theorem splitAt_byteLength (front back : List Char) :
    splitAt (byteLength front) (front ++ back) = some (front, back) := by
  induction front with
  | nil => cases back <;> rfl
  | cons c rest ih =>
    obtain ⟨before, size⟩ : ∃ before, c.utf8Size = before + 1 :=
      Nat.exists_eq_add_one.mpr c.utf8Size_pos
    have past : byteLength (c :: rest) = before + byteLength rest + 1 := by
      rw [byteLength, size]
      omega
    have left : before + byteLength rest + 1 - c.utf8Size = byteLength rest := by omega
    rw [past, List.cons_append, splitAt, if_pos (by omega), left, ih, Option.map_some]

section Parts

variable (front middle back : List Char)

/-- A part of a text ends as many bytes after its start as it has, which is inside the text. -/
theorem count_byteLength :
    count (byteLength (front ++ middle ++ back)) (byteLength front) (byteLength middle)
      = some (byteLength (front ++ middle)) := by
  rw [Columns.byteLength_append (front ++ middle), Columns.byteLength_append]
  exact count_eq (Nat.le_add_right _ _)

/-- A part of a text stands between the offsets of its ends. -/
theorem between_byteLength :
    between (front ++ middle ++ back) (byteLength front) (byteLength (front ++ middle))
      = some middle := by
  have ordered : byteLength front ≤ byteLength (front ++ middle) := by
    rw [Columns.byteLength_append]
    exact Nat.le_add_right _ _
  rw [between, if_pos ordered, splitAt_byteLength (front ++ middle) back, Option.bind_eq_bind,
    Option.bind_some, splitAt_byteLength]
  rfl

/-- A part of a text can be replaced between the offsets of its ends. -/
theorem replaceBetween_byteLength (replacement : List Char) :
    replaceBetween (front ++ middle ++ back) (byteLength front) (byteLength (front ++ middle))
        replacement
      = some (front ++ replacement ++ back) := by
  have ordered : byteLength front ≤ byteLength (front ++ middle) := by
    rw [Columns.byteLength_append]
    exact Nat.le_add_right _ _
  rw [replaceBetween, if_pos ordered, splitAt_byteLength (front ++ middle) back, List.append_assoc,
    splitAt_byteLength]
  rfl

end Parts

/-! ## Cuts by columns -/

/-- The units of a text, if their number fits 32 bits. -/
def width32 (text : List Char) : Option Nat :=
  if width text < Nat.pow 2 32 then some (width text) else none

theorem width32_eq {text : List Char} (narrow : width text < Nat.pow 2 32) :
    width32 text = some (width text) :=
  if_pos narrow

/-- The byte offset of a column in the rest of a line, before which so many units and bytes were
passed. -/
def byteOffsetFrom (column : Nat) : Nat → Nat → List Char → Option Nat
  | _, offset, [] => some offset
  | passed, offset, c :: rest =>
    if column ≤ passed then some offset
    else do
      let next ← sum 32 passed (units c)
      byteOffsetFrom column next (offset + c.utf8Size) rest

/-- The byte offset of a column of a line; of a column past the end, that of the end. -/
def byteOffset (line : List Char) (column : Nat) : Option Nat :=
  byteOffsetFrom column 0 0 line

/-- The text between two columns of a line, the second one brought behind the first one. -/
def slice (line : List Char) (start stop : Nat) : Option (List Char) := do
  let first ← byteOffset line start
  let last ← byteOffset line stop
  between line first (max last first)

/-- A line with the text between two columns replaced, the second one brought behind the first
one. -/
def splice (line : List Char) (start stop : Nat) (replacement : List Char) : Option (List Char) := do
  let first ← byteOffset line start
  let last ← byteOffset line stop
  replaceBetween line first (max last first) replacement

/-- A column can be found in a line: the units up to it, or those of the whole line, can be counted
in 32 bits. -/
def Findable (line : List Char) (column : Nat) : Prop :=
  ∃ front back, line = front ++ back ∧ width front < Nat.pow 2 32 ∧
    (column ≤ width front ∨ back = [])

/-- In a line whose units can be counted every column can be found. -/
theorem findable_of_narrow {line : List Char} (narrow : width line < Nat.pow 2 32) (column : Nat) :
    Findable line column :=
  ⟨line, [], (List.append_nil line).symm, narrow, .inr rfl⟩

/-- A column that is not the greatest of 32 bits can be found in every line. -/
theorem findable_of_lt {column : Nat} (small : column + 1 < Nat.pow 2 32) (line : List Char) :
    Findable line column :=
  ⟨(cut column line).1, (cut column line).2, (Columns.cut_append column line).symm,
    Nat.lt_of_le_of_lt (Columns.width_cut_le column line) small, Columns.le_width_cut column line⟩

/-- A search ends where the column is reached; nothing more is cut off from there. -/
theorem byteOffsetFrom_of_le {column passed : Nat} (reached : column ≤ passed) (offset : Nat)
    (text : List Char) :
    byteOffsetFrom column passed offset text
      = some (offset + Columns.byteOffset text (column - passed)) := by
  rw [Nat.sub_eq_zero_of_le reached, Columns.byteOffset, Columns.cut_zero]
  cases text with
  | nil => rfl
  | cons c rest => exact if_pos reached

/-- A search ends at the offset where what is left of the column cuts the rest of the line. -/
theorem byteOffsetFrom_eq {front back : List Char} {column passed : Nat} (offset : Nat)
    (narrow : passed + width front < Nat.pow 2 32)
    (reached : column ≤ passed + width front ∨ back = []) :
    byteOffsetFrom column passed offset (front ++ back)
      = some (offset + Columns.byteOffset (front ++ back) (column - passed)) := by
  induction front generalizing passed offset with
  | nil =>
    rcases reached with here | rfl
    · exact byteOffsetFrom_of_le here offset back
    · rw [List.append_nil, byteOffsetFrom, Columns.byteOffset]
      cases column - passed <;> rfl
  | cons c front ih =>
    by_cases here : column ≤ passed
    · exact byteOffsetFrom_of_le here offset _
    · rw [width, ← Nat.add_assoc] at narrow reached
      obtain ⟨left, more⟩ : ∃ left, column - passed = left + 1 :=
        Nat.exists_eq_add_one.mpr (Nat.sub_pos_of_lt (Nat.not_le.mp here))
      have next := ih (offset + c.utf8Size) narrow reached
      have shorter : column - (passed + units c) = left + 1 - units c := by omega
      rw [List.cons_append, byteOffsetFrom, if_neg here, sum_eq (by omega), Option.bind_eq_bind,
        Option.bind_some, next, shorter, more, Columns.byteOffset, Columns.byteOffset, Columns.cut,
        byteLength, Nat.add_assoc]

/-- **A column that can be found is at the offset where it cuts the line.** -/
theorem byteOffset_eq {line : List Char} {column : Nat} (findable : Findable line column) :
    byteOffset line column = some (Columns.byteOffset line column) := by
  obtain ⟨front, back, rfl, narrow, reached⟩ := findable
  have found := @byteOffsetFrom_eq front back column 0 0 (by rwa [Nat.zero_add])
    (by rwa [Nat.zero_add])
  rwa [Nat.zero_add, Nat.sub_zero] at found

/-- At that offset the line can be cut. -/
theorem splitAt_byteOffset (line : List Char) (column : Nat) :
    splitAt (Columns.byteOffset line column) line = some (cut column line) := by
  have parts := splitAt_byteLength (cut column line).1 (cut column line).2
  rwa [Columns.cut_append] at parts

/-- The greater of two columns is at the greater of their offsets. -/
theorem max_byteOffset (line : List Char) (first second : Nat) :
    max (Columns.byteOffset line second) (Columns.byteOffset line first)
      = Columns.byteOffset line (max first second) := by
  rcases Nat.le_total first second with le | le
  · rw [Nat.max_eq_right le, Nat.max_eq_left (Columns.byteOffset_mono le line)]
  · rw [Nat.max_eq_left le, Nat.max_eq_right (Columns.byteOffset_mono le line)]

section Between

variable {line : List Char} {start stop : Nat} (first : Findable line start)
  (last : Findable line stop)

include first last

/-- **The text between any two columns can be cut out**, whichever comes first. -/
theorem slice_eq : slice line start stop = some (Columns.slice line start stop) := by
  rw [slice, byteOffset_eq first, byteOffset_eq last]
  simp only [Option.bind_eq_bind, Option.bind_some]
  obtain ⟨front, middle, back, whole, left, right⟩ :=
    Columns.exists_parts (Nat.le_max_left start stop) line
  have between : between line (byteLength front) (byteLength (front ++ middle)) = some middle := by
    rw [whole, between_byteLength]
  rw [max_byteOffset, Columns.byteOffset, Columns.byteOffset, left, right, between, Columns.slice,
    left]
  rcases Nat.le_total start stop with ordered | reversed
  · rw [Nat.max_eq_right ordered] at right
    rw [right, List.drop_left]
  · -- The columns are reversed: there is nothing between them, and nothing is cut out.
    rw [Nat.max_eq_left reversed] at right
    have nothing : middle = [] := by
      rw [right] at left
      exact List.append_right_eq_self.mp left
    have shorter := (Columns.cut_isPrefix reversed line).length_le
    rw [left] at shorter
    rw [nothing, List.drop_eq_nil_of_le shorter]

/-- **The text between any two columns can be replaced**, whichever comes first. -/
theorem splice_eq (replacement : List Char) :
    splice line start stop replacement = some (Columns.splice line start stop replacement) := by
  rw [splice, byteOffset_eq first, byteOffset_eq last]
  simp only [Option.bind_eq_bind, Option.bind_some]
  obtain ⟨front, middle, back, whole, left, right⟩ :=
    Columns.exists_parts (Nat.le_max_left start stop) line
  have replaced : replaceBetween line (byteLength front) (byteLength (front ++ middle)) replacement
      = some (front ++ replacement ++ back) := by
    rw [whole, replaceBetween_byteLength]
  rw [max_byteOffset, Columns.byteOffset, Columns.byteOffset, left, right, replaced, Columns.splice,
    left, right]

end Between

end Guarded

end Orthography
