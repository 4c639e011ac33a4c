import Orthography.Text.Segment

/-!
# Segments make up their line

Reading a character neither loses nor reorders anything: the segments that it completes and the
segment that is open after it hold the characters of the segment before it, and then the character
(`Open.flatten_read`).  So the segments of a line, put together again, are the line
(`flatten_ofLine`).
-/

namespace Orthography.Segment

set_option autoImplicit false

/-- The characters of an open segment in the order of the line, a held sign included. -/
def Open.content (segment : Open) : List Char :=
  segment.chars.reverse ++
    match segment.held with
    | none => []
    | some (_, sign) => sign.reverse

/-- A new segment holds its one character. -/
theorem Open.content_start (c : Char) : (Open.start c).content = [c] :=
  rfl

/-- The segments at the end of a line hold what was open. -/
theorem Open.flatten_finish (segment : Open) : segment.finish.flatten = segment.content := by
  unfold Open.finish Open.content
  cases segment.held with
  | none => rw [List.flatten_singleton, List.append_nil]
  | some held => simp only [List.flatten_cons, List.flatten_nil, List.append_nil]

/-- Completing a segment and starting the next one keeps all characters in order. -/
theorem Open.flatten_finish_start (segment : Open) (c : Char) :
    segment.finish.flatten ++ (Open.start c).content = segment.content ++ [c] := by
  rw [Open.flatten_finish, Open.content_start]

/-- Reading a character keeps all characters in order. -/
theorem Open.flatten_read (segment : Open) (c : Char) :
    (segment.read c).1.flatten ++ (segment.read c).2.content = segment.content ++ [c] := by
  obtain ⟨chars, tail, held, joined⟩ := segment
  cases held with
  | none =>
    simp only [Open.read]
    split
    · simp [Open.content]
    · split
      · simp [Open.content]
      · split
        · simp [Open.content]
        · simp [Open.content]
        · exact Open.flatten_finish_start ⟨chars, tail, none, joined⟩ c
  | some held =>
    obtain ⟨need, sign⟩ := held
    simp only [Open.read]
    split
    · simp [Open.content]
    · split
      · simp [Open.content]
      · split
        · simp [Open.content]
        · exact Open.flatten_finish_start ⟨chars, tail, some (need, sign), joined⟩ c

/-- The segments of the rest of a line hold what is open and then the rest. -/
theorem flatten_continueFrom (segment : Open) (rest : List Char) :
    (continueFrom segment rest).flatten = segment.content ++ rest := by
  induction rest generalizing segment with
  | nil => rw [continueFrom, Open.flatten_finish, List.append_nil]
  | cons c rest ih =>
    have step : segment.content ++ c :: rest = segment.content ++ [c] ++ rest := by
      rw [List.append_assoc, List.singleton_append]
    rw [continueFrom, List.flatten_append, ih, ← List.append_assoc, Open.flatten_read, step]

/-- **The segments of a line make up the line.** -/
theorem flatten_ofLine (line : List Char) : (ofLine line).flatten = line := by
  cases line with
  | nil => rfl
  | cons c rest => exact flatten_continueFrom (Open.start c) rest

end Orthography.Segment
