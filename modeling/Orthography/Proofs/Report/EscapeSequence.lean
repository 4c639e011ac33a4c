import Orthography.Report.Text

/-!
# Escape sequences

A terminal takes escape sequences out of a text and shows the rest.  An escape sequence starts with the
escape character and a bracket, goes on with parameters and perhaps other signs, and ends with a letter
or a sign that is neither (`Report.sequenceLength`).  What is left without them is the text that a
reader sees (`Report.shownText`).

A text reads as another one if it shows this text wherever it stands (`Report.Reads`).  The condition on
what comes behind it makes texts that read as others fit to be joined: a text that breaks off within a
sequence does not read as any text.  A text without escape characters reads as itself, and replacing a
part of it by what reads as this part changes nothing that is read (`Report.ShowsAs.replaceAll`).
-/

namespace Orthography.Report

set_option autoImplicit false

/-! ## Escape sequences -/

/-- The character that escape sequences start with. -/
def escape : Char := '\x1b'

/-- Digits and separators, which parameters consist of. -/
def isParameter (c : Char) : Bool :=
  '0' ≤ c && c ≤ '?'

/-- Signs that may stand between the parameters and the end of a sequence. -/
def isIntermediate (c : Char) : Bool :=
  ' ' ≤ c && c ≤ '/'

/-- Letters and signs that end a sequence. -/
def isFinal (c : Char) : Bool :=
  '@' ≤ c && c ≤ '~'

/-- The number of characters of the escape sequence that a text starts with, or zero if it starts with
none. -/
def sequenceLength : List Char → Nat
  | '\x1b' :: '[' :: rest =>
    let parameters := rest.takeWhile isParameter
    let signs := (rest.dropWhile isParameter).takeWhile isIntermediate
    match (rest.dropWhile isParameter).dropWhile isIntermediate with
    | last :: _ => if isFinal last then parameters.length + signs.length + 3 else 0
    | [] => 0
  | _ => 0

/-- What is shown of a text when a number of characters still belong to an escape sequence. -/
def shownAfter : Nat → List Char → List Char
  | _, [] => []
  | skipped + 1, _ :: rest => shownAfter skipped rest
  | 0, c :: rest =>
    match sequenceLength (c :: rest) with
    | 0 => c :: shownAfter 0 rest
    | length + 1 => shownAfter length rest

/-- What is shown of a text: all but its escape sequences. -/
def shown (text : List Char) : List Char :=
  shownAfter 0 text

/-- A text without its escape sequences. -/
def shownText (text : String) : String :=
  String.ofList (shown text.toList)

/-- A text holds no escape character. -/
def Unescaped (text : String) : Prop :=
  escape ∉ text.toList

instance (text : String) : Decidable (Unescaped text) :=
  inferInstanceAs (Decidable (escape ∉ text.toList))

theorem shown_nil : shown [] = [] :=
  rfl

theorem shownAfter_length (skipped text : List Char) :
    shownAfter skipped.length (skipped ++ text) = shown text := by
  induction skipped with
  | nil => rfl
  | cons c rest ih => exact ih

/-- A character that is no escape character is shown. -/
theorem shown_cons {c : Char} (plain : c ≠ escape) (rest : List Char) :
    shown (c :: rest) = c :: shown rest := by
  have none : sequenceLength (c :: rest) = 0 := by
    unfold sequenceLength
    split
    · next equal => exact absurd (List.cons.inj equal).1 plain
    · rfl
  rw [shown, shownAfter, none]
  rfl

/-- Parameters with an end behind them are an escape sequence, whatever comes next. -/
theorem shown_sequence {parameters : List Char} (proper : parameters.all isParameter = true)
    (rest : List Char) : shown ('\x1b' :: '[' :: (parameters ++ 'm' :: rest)) = shown rest := by
  have all := List.all_eq_true.mp proper
  have taken : (parameters ++ 'm' :: rest).takeWhile isParameter = parameters := by
    rw [List.takeWhile_append_of_pos all]
    simp [isParameter]
  have left : (parameters ++ 'm' :: rest).dropWhile isParameter = 'm' :: rest := by
    rw [List.dropWhile_append_of_pos all]
    rfl
  have length : sequenceLength ('\x1b' :: '[' :: (parameters ++ 'm' :: rest))
      = parameters.length + 3 := by
    simp only [sequenceLength, taken, left]
    rfl
  have skipped := shownAfter_length ('[' :: (parameters ++ ['m'])) rest
  rw [shown, shownAfter, length]
  simpa using skipped

/-- Without the escape character, the signs of a sequence are text like any other. -/
example : shownText "\x1b[1;31mamen\x1b[0m [0m" = "amen [0m" := by decide +kernel

/-! ## Texts that show as others -/

/-- A text shows as another one, whatever comes behind it. -/
def ShowsAs (text seen : List Char) : Prop :=
  ∀ rest, shown (text ++ rest) = seen ++ shown rest

namespace ShowsAs

variable {text seen further other : List Char}

theorem append (first : ShowsAs text seen) (second : ShowsAs further other) :
    ShowsAs (text ++ further) (seen ++ other) := by
  intro rest
  rw [List.append_assoc, first, second, List.append_assoc]

theorem cons {c : Char} (plain : c ≠ escape) (shows : ShowsAs text seen) :
    ShowsAs (c :: text) (c :: seen) := by
  intro rest
  rw [List.cons_append, shown_cons plain, shows, List.cons_append]

/-- On its own, too, a text shows as the other one. -/
theorem shown_eq (shows : ShowsAs text seen) : shown text = seen := by
  have whole := shows []
  rwa [List.append_nil, shown_nil, List.append_nil] at whole

/-- A text without escape characters shows as it is. -/
theorem self (plain : escape ∉ text) : ShowsAs text text := by
  induction text with
  | nil => exact fun rest => rfl
  | cons c rest ih =>
    obtain ⟨first, others⟩ := not_or.mp (mt List.mem_cons.mpr plain)
    exact cons (Ne.symm first) (ih others)

/-- Replacing a part by what shows as the part changes nothing that is shown. -/
theorem replaceAll {part replacement : List Char} (shows : ShowsAs replacement part)
    (plain : escape ∉ text) (fuel : Nat) :
    ShowsAs (Report.replaceAll part replacement fuel text) text := by
  induction fuel generalizing text with
  | zero => exact self plain
  | succ fuel ih =>
    cases text with
    | nil => exact self plain
    | cons c rest =>
      rw [Report.replaceAll]
      split
      · next found =>
        obtain ⟨behind, whole⟩ := List.isPrefixOf_iff_prefix.mp found
        rw [← whole] at plain ⊢
        rw [List.drop_left]
        exact shows.append (ih fun member => plain (List.mem_append_right part member))
      · obtain ⟨first, others⟩ := not_or.mp (mt List.mem_cons.mpr plain)
        exact cons (Ne.symm first) (ih others)

end ShowsAs

/-! ## Printed texts -/

/-- A printed text reads as another one. -/
def Reads (text seen : String) : Prop :=
  ShowsAs text.toList seen.toList

namespace Reads

variable {text seen further other : String}

theorem append (first : Reads text seen) (second : Reads further other) :
    Reads (text ++ further) (seen ++ other) := by
  unfold Reads
  rw [String.toList_append, String.toList_append]
  exact ShowsAs.append first second

theorem self (plain : Unescaped text) : Reads text text :=
  ShowsAs.self plain

theorem concat (reads : Reads text seen) (plain : Unescaped further) :
    Reads (text ++ further) (seen ++ further) :=
  reads.append (self plain)

theorem line (reads : Reads text seen) : Reads (Report.line text) (Report.line seen) :=
  reads.concat (by decide)

theorem shownText_eq (reads : Reads text seen) : shownText text = seen := by
  rw [shownText, ShowsAs.shown_eq reads, String.ofList_toList]

/-- Lists of texts that read as others, joined by such texts. -/
theorem intercalate {α : Type} {items : List α} {printed plain : α → String}
    (each : ∀ item ∈ items, Reads (printed item) (plain item)) (between : Reads text seen) :
    Reads (text.intercalate (items.map printed)) (seen.intercalate (items.map plain)) := by
  induction items with
  | nil =>
    have empty : Unescaped "" := by decide
    exact self empty
  | cons item rest ih =>
    obtain ⟨first, others⟩ := List.forall_mem_cons.mp each
    cases rest with
    | nil => simpa using first
    | cons next rest =>
      simp only [List.map_cons, String.intercalate_cons_cons] at ih ⊢
      exact (first.append between).append (ih others)

theorem join {α : Type} {items : List α} {printed plain : α → String}
    (each : ∀ item ∈ items, Reads (printed item) (plain item)) :
    Reads (String.join (items.map printed)) (String.join (items.map plain)) := by
  induction items with
  | nil =>
    have empty : Unescaped "" := by decide
    exact self empty
  | cons item rest ih =>
    obtain ⟨first, others⟩ := List.forall_mem_cons.mp each
    rw [List.map_cons, List.map_cons, String.join_cons, String.join_cons]
    exact first.append (ih others)

end Reads

end Orthography.Report
