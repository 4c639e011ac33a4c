import Orthography.Proofs.Unicode.CodeRun
import Orthography.Unicode.CaseMapping

/-!
# Small letters and their capitals

A small letter *returns* when the small form of its capital form is the letter again
(`Unicode.Returns`).  Most letters do.  The sharp s does not, since its capital form is two letters,
and neither does the long s, which shares its capital with another small letter.

What capitalising the first letter does to the small form of a text depends on this letter only.  If
it returns, nothing changes (`Unicode.lowercaseText_of_returns`): the characters after it look at it to
tell a capital sigma at the end of a word from one inside, and to them the letter and its capital are
alike (`Unicode.alike_of_returns`).  If it does not return, the small form starts with another
character (`Unicode.head_ne_of_not_returns`).

What is special about single letters is read off the tables, by comparing classes of code points with
each other and by going through the few letters whose capital form is several letters
(`Unicode.tablesAgree`).
-/

namespace Orthography.Unicode

set_option autoImplicit false

/-! ## Letters that are moved by a shift -/

namespace CaseShift

/-- A code point is moved by one of the shifts, or stays where it is. -/
theorem apply_cases (shifts : List CaseShift) (n : Nat) :
    (∃ shift ∈ shifts, shift.run.contains n = true ∧
        apply shifts n = (Int.ofNat n + shift.distance).toNat) ∨
      apply shifts n = n := by
  induction shifts with
  | nil => exact .inr rfl
  | cons shift rest ih =>
    rw [apply]
    split
    · exact .inr rfl
    · split
      · next inside => exact .inl ⟨shift, List.mem_cons_self, inside, rfl⟩
      · rcases ih with ⟨other, member, there, moved⟩ | stays
        · exact .inl ⟨other, List.mem_cons_of_mem shift member, there, moved⟩
        · exact .inr stays

/-- The run that a shift leads to. -/
def image (shift : CaseShift) : CodeRun :=
  ⟨(shift.run.first + shift.distance).toNat, (shift.run.last + shift.distance).toNat,
    shift.run.step⟩

/-- Whether a run is led to code points, all of which or none of which are covered by others. -/
def imageAgrees (verdict : Bool) (others : List CodeRun) (shift : CaseShift) : Bool :=
  decide (0 ≤ Int.ofNat shift.run.first + shift.distance) && shift.image.agrees verdict others

variable {verdict : Bool} {shifts : List CaseShift} {others : List CodeRun} {n : Nat}

/-- A code point that is moved by a shift is looked up in others like the runs of all shifts. -/
theorem covers_of_moved (agree : CodeRun.allAgree verdict 0 (shifts.map CaseShift.run) others = true)
    (moved : apply shifts n ≠ n) : CodeRun.covers others n = verdict := by
  rcases apply_cases shifts n with ⟨shift, member, inside, -⟩ | stays
  · exact CodeRun.covers_of_mem_of_allAgree agree (List.mem_map_of_mem member) inside
  · exact absurd stays moved

/-- A shift leads the code points of its run to its image. -/
theorem contains_image {shift : CaseShift} (fits : 0 ≤ Int.ofNat shift.run.first + shift.distance)
    (inside : shift.run.contains n = true) :
    shift.image.contains (Int.ofNat n + shift.distance).toNat = true := by
  simp only [CodeRun.contains, image, Int.ofNat_eq_natCast, Bool.and_eq_true, decide_eq_true_eq,
    beq_iff_eq] at inside fits ⊢
  obtain ⟨⟨first, last⟩, step⟩ := inside
  have apart : (n + shift.distance).toNat - (shift.run.first + shift.distance).toNat
      = n - shift.run.first := by
    omega
  rw [apart]
  exact ⟨⟨decide_eq_true (by omega), decide_eq_true (by omega)⟩, step⟩

/-- A code point that was moved is looked up in others like the images of all shifts. -/
theorem covers_apply (agree : shifts.all (imageAgrees verdict others) = true)
    (moved : apply shifts n ≠ n) : CodeRun.covers others (apply shifts n) = verdict := by
  rcases apply_cases shifts n with ⟨shift, member, inside, led⟩ | stays
  · have images := List.all_eq_true.mp agree shift member
    simp only [imageAgrees, Bool.and_eq_true, decide_eq_true_eq] at images
    rw [led]
    exact CodeRun.covers_of_agrees images.2 (contains_image images.1 inside)
  · exact absurd stays moved

end CaseShift

/-! ## What the tables say -/

/-- The small form of a character at the start of a text.  A capital sigma ends no word there. -/
def smallAtStart (c : Char) : List Char :=
  if c.toNat = 0x3A3 then [Char.ofNat 0x3C3] else toLowercase c

/-- Whether the capital form of a letter, as code points, is several letters, of which the first
has another small form. -/
def changesHead : Nat × List Nat → Bool
  | (letter, first :: _ :: _) =>
    (smallAtStart (Char.ofNat first)).head? != some (Char.ofNat letter)
  | _ => false

/-- What the tables of letters and of case mappings have to do with each other. -/
structure TablesAgree : Prop where
  /-- Small letters are cased. -/
  small_cased : CodeRun.allAgree true 0 lowercase cased = true
  /-- Letters with another letter as their small form are no small letters. -/
  capital_not_small :
    CodeRun.allAgree false 0 (lowercaseShifts.map CaseShift.run) lowercase = true
  /-- They are cased, -/
  capital_cased : CodeRun.allAgree true 0 (lowercaseShifts.map CaseShift.run) cased = true
  /-- and they are not passed over when the letters around a capital sigma are looked at. -/
  capital_not_ignorable :
    CodeRun.allAgree false 0 (lowercaseShifts.map CaseShift.run) caseIgnorable = true
  /-- Neither are letters with another letter as their capital, the combining iota excepted. -/
  small_not_ignorable :
    CodeRun.allAgree false 0
      ((uppercaseShifts.map CaseShift.run).filter fun run => run ≠ ⟨0x345, 0x345, 1⟩) caseIgnorable
        = true
  /-- A capital form in the table of those with several letters has another small form. -/
  several_change : uppercaseExpansions.all changesHead = true
  /-- The capital sigma has a small form in the table as well. -/
  sigma_moves : CaseShift.apply lowercaseShifts 0x3A3 ≠ 0x3A3
  /-- The dotted capital I, whose small form is two letters, is no small letter, -/
  dotted_not_small : CodeRun.covers lowercase 0x130 = false
  /-- and the small i does not lead to it. -/
  dotted_not_capital : (Char.ofNat (CaseShift.apply uppercaseShifts 'i'.toNat)).toNat ≠ 0x130
  /-- The combining iota does not come back from its capital. -/
  iota_lost :
    smallAtStart (Char.ofNat (CaseShift.apply uppercaseShifts 0x345)) ≠ [Char.ofNat 0x345]

/-- The tables are what they have to be. -/
theorem tablesAgree : TablesAgree := by
  constructor <;> decide +kernel

variable {c : Char}

/-- A small letter is cased. -/
theorem isCased_of_isLowercase (small : isLowercase c = true) : isCased c = true :=
  CodeRun.covers_of_allAgree tablesAgree.small_cased small

/-- A small letter is not moved on the way to small forms. -/
theorem apply_of_isLowercase (small : isLowercase c = true) :
    CaseShift.apply lowercaseShifts c.toNat = c.toNat := by
  apply Decidable.byContradiction
  intro moved
  rw [isLowercase, CaseShift.covers_of_moved tablesAgree.capital_not_small moved] at small
  cases small

/-- A letter with another letter as its small form is cased, and is not passed over when the letters
around a capital sigma are looked at. -/
theorem class_of_moved (moved : CaseShift.apply lowercaseShifts c.toNat ≠ c.toNat) :
    isCased c = true ∧ isCaseIgnorable c = false :=
  ⟨CaseShift.covers_of_moved tablesAgree.capital_cased moved,
    CaseShift.covers_of_moved tablesAgree.capital_not_ignorable moved⟩

/-- A small letter with a capital of one letter is not passed over either, the combining iota
excepted. -/
theorem isCaseIgnorable_of_moved (moved : CaseShift.apply uppercaseShifts c.toNat ≠ c.toNat)
    (other : c.toNat ≠ 0x345) : isCaseIgnorable c = false := by
  rcases CaseShift.apply_cases uppercaseShifts c.toNat with ⟨shift, member, inside, -⟩ | stays
  · have apart : shift.run ≠ ⟨0x345, 0x345, 1⟩ := by
      intro iota
      simp only [iota, CodeRun.contains, Bool.and_eq_true, decide_eq_true_eq] at inside
      omega
    refine CodeRun.covers_of_mem_of_allAgree tablesAgree.small_not_ignorable ?_ inside
    exact List.mem_filter.mpr ⟨List.mem_map_of_mem member, decide_eq_true apart⟩
  · exact absurd stays moved

/-! ## The small form of a text, letter by letter -/

/-- The small form of a text starts with the small form of its first character. -/
theorem lowercaseText_cons (c : Char) (rest : List Char) :
    lowercaseText (c :: rest) = smallAtStart c ++ lowercaseAfter [c] rest :=
  rfl

/-- The small form of a text is not shorter than the text. -/
theorem length_le_lowercaseAfter (before text : List Char) :
    text.length ≤ (lowercaseAfter before text).length := by
  induction text generalizing before with
  | nil => exact Nat.zero_le _
  | cons c rest ih =>
    have further := ih (c :: before)
    rw [lowercaseAfter, List.length_append, List.length_cons]
    split
    · simp only [List.length_singleton]
      omega
    · unfold toLowercase
      split <;> simp only [List.length_cons, List.length_nil] <;> omega

/-- A character that is not moved is no capital sigma. -/
theorem ne_sigma_of_stays (stays : CaseShift.apply lowercaseShifts c.toNat = c.toNat) :
    c.toNat ≠ 0x3A3 := by
  intro sigma
  rw [sigma] at stays
  exact tablesAgree.sigma_moves stays

/-- A character that is not moved has itself for a small letter. -/
theorem toLowercase_of_stays (stays : CaseShift.apply lowercaseShifts c.toNat = c.toNat)
    (plain : c.toNat ≠ 0x130) : toLowercase c = [c] := by
  rw [toLowercase, if_neg plain, stays, Char.ofNat_toNat]

/-- A character that is not moved is its own small form. -/
theorem smallAtStart_of_stays (stays : CaseShift.apply lowercaseShifts c.toNat = c.toNat)
    (plain : c.toNat ≠ 0x130) : smallAtStart c = [c] := by
  rw [smallAtStart, if_neg (ne_sigma_of_stays stays), toLowercase_of_stays stays plain]

/-- A small letter is its own small form. -/
theorem smallAtStart_of_isLowercase (small : isLowercase c = true) : smallAtStart c = [c] := by
  refine smallAtStart_of_stays (apply_of_isLowercase small) fun dotted => ?_
  rw [isLowercase, dotted, tablesAgree.dotted_not_small] at small
  cases small

/-- The small form of a character is a single one, that of the dotted capital I excepted. -/
theorem smallAtStart_cases (c : Char) :
    (∃ small, smallAtStart c = [small]) ∨
      c.toNat = 0x130 ∧ smallAtStart c = ['i', Char.ofNat 0x307] := by
  by_cases dotted : c.toNat = 0x130
  · exact .inr ⟨dotted, by simp [smallAtStart, toLowercase, dotted]⟩
  · rw [smallAtStart, toLowercase, if_neg dotted]
    split <;> exact .inl ⟨_, rfl⟩

/-- The small form of a text starts like the small form of its first character. -/
theorem head?_lowercaseText (c : Char) (rest : List Char) :
    (lowercaseText (c :: rest)).head? = (smallAtStart c).head? := by
  rw [lowercaseText_cons]
  rcases smallAtStart_cases c with ⟨small, single⟩ | ⟨-, double⟩
  · rw [single]
    rfl
  · rw [double]
    rfl

/-! ## Letters that are alike to the rest of a text -/

/-- Two characters are alike to those after them: both are cased or neither is, and both are passed
over or neither is. -/
structure Alike (first second : Char) : Prop where
  cased : isCased first = isCased second
  ignorable : isCaseIgnorable first = isCaseIgnorable second

section

variable {first second : Char} (alike : Alike first second)

include alike

/-- Whether a text leads to a cased character does not depend on which of two characters that are
alike stands at its end. -/
theorem leadsToCased_append (front : List Char) :
    leadsToCased (front ++ [first]) = leadsToCased (front ++ [second]) := by
  induction front with
  | nil =>
    simp only [leadsToCased, List.nil_append, List.dropWhile_cons, List.dropWhile_nil,
      alike.ignorable]
    cases isCaseIgnorable second with
    | true => rfl
    | false => exact alike.cased
  | cons c rest ih =>
    simp only [leadsToCased, List.cons_append, List.dropWhile_cons] at ih ⊢
    cases isCaseIgnorable c with
    | true => exact ih
    | false => rfl

/-- A text has the same small form after either of two characters that are alike. -/
theorem lowercaseAfter_append (front text : List Char) :
    lowercaseAfter (front ++ [first]) text = lowercaseAfter (front ++ [second]) text := by
  induction text generalizing front with
  | nil => rfl
  | cons c rest ih =>
    rw [lowercaseAfter, lowercaseAfter, leadsToCased_append alike, ← List.cons_append, ih,
      List.cons_append]

end

/-! ## Letters that return -/

/-- A letter returns when the small form of its capital form is the letter again. -/
def Returns (c : Char) : Prop :=
  lowercaseText (toUppercase c) = [c]

instance : DecidablePred Returns :=
  fun c => inferInstanceAs (Decidable (lowercaseText (toUppercase c) = [c]))

/-- The capital form of a letter is the letter that a shift leads to, or it is in the table of those
with several letters. -/
theorem toUppercase_cases (c : Char) :
    toUppercase c = [Char.ofNat (CaseShift.apply uppercaseShifts c.toNat)] ∨
      ∃ codes, (c.toNat, codes) ∈ uppercaseExpansions ∧ toUppercase c = codes.map Char.ofNat := by
  cases found : uppercaseExpansions.lookup c.toNat with
  | none => exact .inl (by rw [toUppercase, found])
  | some codes =>
    obtain ⟨front, back, split, -⟩ := List.lookup_eq_some_iff.mp found
    refine .inr ⟨codes, ?_, by rw [toUppercase, found]⟩
    rw [split]
    exact List.mem_append_right front List.mem_cons_self

/-- A capital form in the table has several letters, and the small form of the first one does not
start with the letter that it belongs to. -/
theorem exists_of_mem_uppercaseExpansions {codes : List Nat}
    (member : (c.toNat, codes) ∈ uppercaseExpansions) :
    ∃ capital second more, codes.map Char.ofNat = capital :: second :: more ∧
      (smallAtStart capital).head? ≠ some c := by
  have changed := List.all_eq_true.mp tablesAgree.several_change _ member
  match codes with
  | first :: second :: more =>
    rw [changesHead, Char.ofNat_toNat, bne_iff_ne] at changed
    exact ⟨_, _, _, rfl, changed⟩

/-- A letter that returns has a capital of one letter. -/
theorem exists_capital_of_returns (returns : Returns c) :
    ∃ capital, toUppercase c = [capital] ∧ smallAtStart capital = [c] ∧
      capital = Char.ofNat (CaseShift.apply uppercaseShifts c.toNat) := by
  rcases toUppercase_cases c with single | ⟨codes, member, expanded⟩
  · refine ⟨_, single, ?_, rfl⟩
    rw [Returns, single, lowercaseText_cons, lowercaseAfter, List.append_nil] at returns
    exact returns
  · obtain ⟨capital, second, more, several, -⟩ := exists_of_mem_uppercaseExpansions member
    rw [← expanded] at several
    have longer := length_le_lowercaseAfter [] (toUppercase c)
    rw [← lowercaseText, returns, several] at longer
    simp only [List.length_cons, List.length_nil] at longer
    omega

/-- A small letter that returns is alike with its capital. -/
theorem alike_of_returns (small : isLowercase c = true) {capital : Char}
    (back : smallAtStart capital = [c])
    (shifted : capital = Char.ofNat (CaseShift.apply uppercaseShifts c.toNat)) :
    Alike capital c := by
  by_cases same : capital = c
  · rw [same]
    exact ⟨rfl, rfl⟩
  · -- Both are moved: the letter on the way to its capital, and the capital on the way back.
    have up : CaseShift.apply uppercaseShifts c.toNat ≠ c.toNat := by
      intro stays
      rw [stays, Char.ofNat_toNat] at shifted
      exact same shifted
    have down : CaseShift.apply lowercaseShifts capital.toNat ≠ capital.toNat := by
      intro stays
      have plain : capital.toNat ≠ 0x130 := by
        intro dotted
        simp [smallAtStart, toLowercase, dotted] at back
      rw [smallAtStart_of_stays stays plain, List.singleton_inj] at back
      exact same back
    have noIota : c.toNat ≠ 0x345 := by
      intro iota
      have letter : c = Char.ofNat 0x345 := by rw [← iota, Char.ofNat_toNat]
      rw [shifted, iota, letter] at back
      exact tablesAgree.iota_lost back
    obtain ⟨cased, ignorable⟩ := class_of_moved down
    exact ⟨cased.trans (isCased_of_isLowercase small).symm,
      ignorable.trans (isCaseIgnorable_of_moved up noIota).symm⟩

/-- **A letter that returns can be capitalised** at the start of a text without a difference to the
small form of the text. -/
theorem lowercaseText_of_returns (small : isLowercase c = true) (returns : Returns c) :
    ∃ capital, toUppercase c = [capital] ∧
      ∀ rest, lowercaseText (capital :: rest) = lowercaseText (c :: rest) := by
  obtain ⟨capital, single, back, shifted⟩ := exists_capital_of_returns returns
  refine ⟨capital, single, fun rest => ?_⟩
  have alike := alike_of_returns small back shifted
  have after := lowercaseAfter_append alike [] rest
  rw [List.nil_append, List.nil_append] at after
  rw [lowercaseText_cons, lowercaseText_cons, back, smallAtStart_of_isLowercase small, after]

/-- **A letter that does not return makes a difference**: when it is capitalised at the start of a
text, the small form of the text starts with another character. -/
theorem head_ne_of_not_returns (lost : ¬Returns c) :
    ∃ capital more, toUppercase c = capital :: more ∧
      ∀ rest, (lowercaseText (capital :: rest)).head? ≠ some c := by
  rcases toUppercase_cases c with single | ⟨codes, member, expanded⟩
  · refine ⟨_, [], single, fun rest same => ?_⟩
    rw [head?_lowercaseText] at same
    rcases smallAtStart_cases (Char.ofNat (CaseShift.apply uppercaseShifts c.toNat)) with
      ⟨small, back⟩ | ⟨dotted, back⟩
    · rw [back, List.head?_cons, Option.some.injEq] at same
      rw [Returns, single, lowercaseText_cons, lowercaseAfter, List.append_nil, back, same] at lost
      exact lost rfl
    · -- Only the small i could lead to the dotted capital I, and it has the plain one.
      rw [back, List.head?_cons, Option.some.injEq] at same
      rw [← same] at dotted
      exact absurd dotted tablesAgree.dotted_not_capital
  · obtain ⟨capital, second, more, several, changed⟩ := exists_of_mem_uppercaseExpansions member
    refine ⟨capital, second :: more, expanded.trans several, fun rest => ?_⟩
    rw [head?_lowercaseText]
    exact changed

example :
    "aéжω".toList.all (fun c => Returns c) = true ∧
      "ßſıςŉ".toList.any (fun c => Returns c) = false := by
  decide +kernel

end Orthography.Unicode
