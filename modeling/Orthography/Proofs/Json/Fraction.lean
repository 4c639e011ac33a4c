import Orthography.Proofs.Json.Spelling

/-!
# Every number is printed legibly

Whatever number is printed, its text is read as a number with this very spelling
(`Json.Number.legible`).  Its value is another matter: that of a fraction may be off by a little.

A text is read as a number when it is put together from the right parts (`Json.readNumber_parts`): a
whole part, perhaps a fraction, perhaps an exponent.  The whole part is the delicate one, for it may
not go on after a zero in front.  The digits of the shortest decimal do not start with a zero, for
they stand for none, but where the search has failed, which gives the exponent zero
(`Binary64.Shortest.Proper`).
-/

namespace Orthography

set_option autoImplicit false

/-! ## Parts of a number -/

namespace Json

/-- A row of digits, at least one. -/
structure DigitRow (row : List Char) : Prop where
  filled : row ≠ []
  digits : ∀ c ∈ row, c.isDigit = true

/-- The whole part of a number: digits that do not go on after a zero in front. -/
structure WholePart (row : List Char) : Prop extends DigitRow row where
  front : ∀ c rest, row ≠ '0' :: c :: rest

/-- The fraction of a number, perhaps empty. -/
inductive FractionPart : List Char → Prop where
  | none : FractionPart []
  | digits {row : List Char} (read : DigitRow row) : FractionPart ('.' :: row)

/-- The exponent of a number as it is printed, perhaps empty. -/
inductive ExponentPart : List Char → Prop where
  | none : ExponentPart []
  | signed {sign : Char} {row : List Char} (kind : sign = '+' ∨ sign = '-') (read : DigitRow row) :
      ExponentPart ('e' :: sign :: row)

/-- A text that starts with no digit. -/
def NoDigitFirst (text : Text) : Prop :=
  ∀ c more, text = some c :: more → c.isDigit = false

theorem noDigitFirst_exponent {exponent : List Char} (part : ExponentPart exponent) :
    NoDigitFirst (exponent.map some) := by
  intro c more first
  cases part with
  | none => cases first
  | signed =>
    cases first
    rfl

theorem noDigitFirst_fraction {fraction exponent : List Char} (left : FractionPart fraction)
    (right : ExponentPart exponent) :
    NoDigitFirst (fraction.map some ++ exponent.map some) := by
  cases left with
  | none => exact noDigitFirst_exponent right
  | digits =>
    intro c more first
    cases first
    rfl

/-- A row of digits is read up to its end. -/
theorem readDigits_row {row : List Char} (digits : ∀ c ∈ row, c.isDigit = true) {rest : Text}
    (ends : NoDigitFirst rest) : readDigits (row.map some ++ rest) = (row, rest) := by
  induction row with
  | nil =>
    cases rest with
    | nil => rfl
    | cons c more =>
      cases c with
      | none => rfl
      | some c => simp [readDigits, ends c more rfl]
  | cons c row ih =>
    rw [List.map_cons, List.cons_append, readDigits, if_pos (digits c List.mem_cons_self),
      ih fun d member => digits d (List.mem_cons_of_mem _ member)]

theorem readWhole_part {whole : List Char} (part : WholePart whole) {rest : Text}
    (ends : NoDigitFirst rest) : readWhole (whole.map some ++ rest) = some (whole, rest) := by
  rw [readWhole, readDigits_row part.digits ends]
  split
  · next equal => cases equal; exact absurd rfl part.filled
  · next equal => cases equal; exact absurd rfl (part.front _ _)
  · rfl

theorem readFraction_part {fraction : List Char} (part : FractionPart fraction)
    {exponent : List Char} (right : ExponentPart exponent) :
    readFraction (fraction.map some ++ exponent.map some) = some (fraction, exponent.map some) := by
  cases part with
  | none => cases right <;> rfl
  | @digits row read =>
    rw [List.map_cons, List.cons_append, readFraction,
      readDigits_row read.digits (noDigitFirst_exponent right)]
    split
    · next equal => cases equal; exact absurd rfl read.filled
    · next equal => cases equal; rfl

theorem readExponent_part {exponent : List Char} (part : ExponentPart exponent) :
    readExponent (exponent.map some) = some (exponent, []) := by
  have row_eq {row : List Char} (read : DigitRow row) : readDigits (row.map some) = (row, []) := by
    have whole : readDigits (row.map some ++ []) = (row, []) :=
      readDigits_row read.digits fun _ _ impossible => nomatch impossible
    rwa [List.append_nil] at whole
  cases part with
  | none => rfl
  | @signed sign row kind read =>
    have after : readSign (some sign :: row.map some) = ([sign], row.map some) := by
      rcases kind with rfl | rfl <;> rfl
    rw [List.map_cons, List.map_cons, readExponent, if_pos (by decide), after, row_eq read]
    split
    · next equal => cases equal; exact absurd rfl read.filled
    · next equal => cases equal; rfl

/-- The sign of a number. -/
def minus (negative : Bool) : List Char :=
  if negative then ['-'] else []

/-- A whole part is not taken for a minus sign. -/
theorem readMinus_part {whole : List Char} (part : WholePart whole) (negative : Bool)
    (rest : Text) :
    readMinus ((minus negative).map some ++ (whole.map some ++ rest)) =
      (minus negative, whole.map some ++ rest) := by
  cases negative with
  | true => rfl
  | false =>
    cases whole with
    | nil => exact absurd rfl part.filled
    | cons c more =>
      have digit := part.digits c List.mem_cons_self
      rw [minus, List.map_cons, List.cons_append]
      simp only [Bool.false_eq_true, if_false, List.map_nil, List.nil_append]
      rw [readMinus]
      rintro tail ⟨⟩
      exact absurd digit (by decide)

/-- **A number is put together from its parts.** -/
theorem readNumber_parts (negative : Bool) {whole fraction exponent : List Char}
    (first : WholePart whole) (second : FractionPart fraction) (third : ExponentPart exponent) :
    readNumber ((minus negative ++ whole ++ fraction ++ exponent).map some) =
      some (.number (minus negative ++ whole ++ fraction ++ exponent), []) := by
  have text : (minus negative ++ whole ++ fraction ++ exponent).map some =
      (minus negative).map some ++
        (whole.map some ++ (fraction.map some ++ exponent.map some)) := by
    simp only [List.map_append, List.append_assoc]
  rw [text, readNumber_eq_some]
  refine ⟨whole, fraction, exponent, _, _, ?_, readFraction_part second third,
    readExponent_part third, ?_⟩
  · rw [readMinus_part first]
    exact readWhole_part first (noDigitFirst_fraction second third)
  · rw [readMinus_part first]

/-! ## Digits -/

theorem digitRow_digits (n : Nat) : DigitRow (Decimal.digits n) :=
  ⟨Decimal.digits_ne_nil n, fun _ => Decimal.isDigit_of_mem_digits⟩

/-- Digits do not go on after a zero in front. -/
theorem front_digits (n : Nat) (c : Char) (rest : List Char) :
    Decimal.digits n ≠ '0' :: c :: rest := by
  intro row
  by_cases zero : n = 0
  · subst zero
    rw [Decimal.digits] at row
    cases row
  · obtain ⟨d, more, digits, nonzero⟩ := Decimal.digits_eq_cons zero
    rw [digits] at row
    cases row
    exact nonzero rfl

theorem wholePart_digits (n : Nat) : WholePart (Decimal.digits n) :=
  ⟨digitRow_digits n, front_digits n⟩

/-- The front of a whole part is one. -/
theorem WholePart.take {row : List Char} (part : WholePart row) (count : Nat)
    (some : 0 < count) : WholePart (row.take count) := by
  refine ⟨⟨?_, fun c member => part.digits c (List.mem_of_mem_take member)⟩, fun c rest front => ?_⟩
  · rw [Ne, List.take_eq_nil_iff]
    exact fun none => none.elim (Nat.ne_of_gt some) part.filled
  · refine part.front c (rest ++ row.drop count) ?_
    rw [← List.cons_append, ← List.cons_append, ← front, List.take_append_drop]

/-- The digits from some position on are a row. -/
theorem DigitRow.drop {row : List Char} (read : DigitRow row) (count : Nat)
    (inside : count < row.length) : DigitRow (row.drop count) :=
  ⟨fun none => absurd (List.drop_eq_nil_iff.mp none) (Nat.not_le.mpr inside),
    fun c member => read.digits c (List.mem_of_mem_drop member)⟩

/-- Zeros may follow the digits of a number that is not zero. -/
theorem wholePart_digits_zeros {n : Nat} {count : Nat} (proper : n = 0 → count = 0) :
    WholePart (Decimal.digits n ++ List.replicate count '0') := by
  refine ⟨⟨?_, fun c member => ?_⟩, fun c rest row => ?_⟩
  · exact List.append_ne_nil_of_left_ne_nil (Decimal.digits_ne_nil n) _
  · rcases List.mem_append.mp member with digit | zero
    · exact Decimal.isDigit_of_mem_digits digit
    · rw [List.eq_of_mem_replicate zero]
      decide
  · by_cases zero : n = 0
    · rw [proper zero, List.replicate_zero, List.append_nil] at row
      exact front_digits n c rest row
    · obtain ⟨d, more, digits, nonzero⟩ := Decimal.digits_eq_cons zero
      rw [digits, List.cons_append, List.cons.injEq] at row
      exact nonzero row.1

end Json

/-! ## The shortest decimal -/

namespace Binary64

/-- A decimal that is zero has the exponent zero. -/
def Shortest.Proper (decimal : Shortest) : Prop :=
  decimal.digits = 0 → decimal.exponent = 0

/-- A number that is not zero has a significand. -/
theorem scaled_ne_zero {x : Binary64} (nonzero : x.isZero = false) : x.scaled.1 ≠ 0 := by
  simp only [isZero, decide_eq_false_iff_not] at nonzero
  rw [scaled]
  split
  · next small =>
    intro zero
    have whole := Nat.div_add_mod x.magnitude (Nat.pow 2 52)
    simp only at zero
    rw [small, zero] at whole
    exact nonzero (by omega)
  · simp

/-- What is rounded to a number that is not zero is not zero. -/
theorem interval_pos {x : Binary64} (nonzero : x.scaled.1 ≠ 0) : 0 < x.interval.1 := by
  rw [interval]
  generalize x.scaled = value at nonzero ⊢
  obtain ⟨significand, exponent⟩ := value
  simp only at nonzero ⊢
  split <;> omega

/-- What is tried is rounded to the number, or the search goes on. -/
theorem tryDigits_cases (x : Binary64) (top : Int) (fuel count : Nat) :
    (∃ digits step scale denominator, 0 < scale ∧
      x.interval.1 * scale ≤ digits * denominator ∧
        tryDigits x top (fuel + 1) count = ⟨digits, step⟩) ∨
      tryDigits x top (fuel + 1) count = tryDigits x top fuel (count + 1) := by
  rw [tryDigits]
  generalize x.interval = bounds
  generalize x.scaled = value
  obtain ⟨low, middle, high⟩ := bounds
  obtain ⟨significand, two⟩ := value
  dsimp -zeta only
  extract_lets step quarter scale denominator inside n floor nearest other
  have positive : 0 < scale := by
    refine Nat.mul_pos ?_ ?_
    · split
      · exact Nat.pow_pos (by decide)
      · decide
    · split
      · exact Nat.pow_pos (by decide)
      · decide
  have above {digits : Nat} (within : inside digits = true) :
      low * scale ≤ digits * denominator := by
    simp only [inside] at within
    split at within
    · exact of_decide_eq_true (Bool.and_eq_true_iff.mp within).1
    · exact Nat.le_of_lt (of_decide_eq_true (Bool.and_eq_true_iff.mp within).1)
  split
  · next within => exact .inl ⟨nearest, step, scale, denominator, positive, above within, rfl⟩
  · split
    · next within => exact .inl ⟨other, step, scale, denominator, positive, above within, rfl⟩
    · exact .inr rfl

/-- No decimal that is tried is zero. -/
theorem proper_tryDigits {x : Binary64} (nonzero : x.scaled.1 ≠ 0) (top : Int) (fuel count : Nat) :
    (tryDigits x top fuel count).Proper := by
  induction fuel generalizing count with
  | zero => exact fun _ => rfl
  | succ fuel ih =>
    rcases tryDigits_cases x top fuel count with
      ⟨digits, step, scale, denominator, positive, above, found⟩ | further
    · -- What is found lies in the interval around the number, and that begins above zero.
      rw [found]
      intro zero
      change digits = 0 at zero
      rw [zero, Nat.zero_mul] at above
      have more := Nat.mul_pos (interval_pos nonzero) positive
      omega
    · rw [further]
      exact ih (count + 1)

theorem Shortest.Proper.trim {decimal : Shortest} (proper : decimal.Proper) (fuel : Nat) :
    (Shortest.trim fuel decimal).Proper := by
  induction fuel generalizing decimal with
  | zero => exact proper
  | succ fuel ih =>
    rw [Shortest.trim]
    split
    · next more =>
      refine ih fun zero => ?_
      simp only [ne_eq, Bool.and_eq_true, decide_eq_true_eq] at more zero
      omega
    · exact proper

theorem proper_shortest {x : Binary64} (nonzero : x.isZero = false) : x.shortest.Proper :=
  (proper_tryDigits (scaled_ne_zero nonzero) _ _ _).trim _

end Binary64

/-! ## Fractions -/

namespace Json

open Binary64 (Shortest)

/-- The characters of a number without its sign: a whole part, perhaps a fraction, perhaps an
exponent. -/
inductive Unsigned : List Char → Prop where
  | parts {whole fraction exponent : List Char} (first : WholePart whole)
      (second : FractionPart fraction) (third : ExponentPart exponent) :
      Unsigned (whole ++ fraction ++ exponent)

theorem wholePart_zero : WholePart ['0'] :=
  ⟨⟨List.cons_ne_nil _ _, fun c member => by rw [List.mem_singleton.mp member]; decide⟩, nofun⟩

theorem fractionPart_zero : FractionPart ['.', '0'] :=
  .digits wholePart_zero.toDigitRow

/-- Digits with a point are a number. -/
theorem unsigned_positional {decimal : Shortest} (proper : decimal.Proper) :
    Unsigned (if decimal.exponent < 0 then decimal.positional
      else decimal.positional ++ ".0".toList) := by
  rw [Shortest.positional]
  split
  · next negative =>
    rw [if_neg (by omega)]
    simp only
    split
    · -- All digits stand after the point, perhaps with zeros before them.
      have places := digitRow_digits decimal.digits
      have row : DigitRow (List.replicate
          ((-decimal.exponent).toNat - (Decimal.digits decimal.digits).length) '0' ++
            Decimal.digits decimal.digits) := by
        refine ⟨List.append_ne_nil_of_right_ne_nil _ places.filled, fun c member => ?_⟩
        rcases List.mem_append.mp member with zero | digit
        · rw [List.eq_of_mem_replicate zero]
          decide
        · exact places.digits c digit
      simpa using Unsigned.parts wholePart_zero (.digits row) .none
    · next long =>
      -- The point stands among the digits.
      have whole := (wholePart_digits decimal.digits).take
        ((Decimal.digits decimal.digits).length - (-decimal.exponent).toNat) (by omega)
      have fraction := (digitRow_digits decimal.digits).drop
        ((Decimal.digits decimal.digits).length - (-decimal.exponent).toNat) (by omega)
      simpa using Unsigned.parts whole (.digits fraction) .none
  · next positive =>
    rw [if_pos (by omega)]
    have whole : WholePart (Decimal.digits decimal.digits ++
        List.replicate decimal.exponent.toNat '0') :=
      wholePart_digits_zeros fun zero => by rw [proper zero]; rfl
    simpa using Unsigned.parts whole fractionPart_zero .none

theorem exponentPart_power (power : Int) :
    ExponentPart ('e' :: if power < 0 then '-' :: Decimal.digits (-power).toNat
      else '+' :: Decimal.digits power.toNat) := by
  split
  · exact .signed (.inr rfl) (digitRow_digits _)
  · exact .signed (.inl rfl) (digitRow_digits _)

/-- The digits of a decimal with a point after the first one are a number. -/
theorem unsigned_mantissa (n : Nat) {exponent : List Char} (third : ExponentPart exponent) :
    Unsigned ((match Decimal.digits n with
      | [] | [_] => Decimal.digits n
      | first :: rest => first :: '.' :: rest) ++ exponent) := by
  have digits := (digitRow_digits n).digits
  split
  · next none => exact absurd none (Decimal.digits_ne_nil n)
  · simpa using Unsigned.parts (wholePart_digits n) .none third
  · next first rest more row =>
    rw [row] at digits
    have whole : WholePart [first] :=
      ⟨⟨List.cons_ne_nil _ _, fun c member => digits c (by simp_all)⟩, nofun⟩
    have fraction : DigitRow rest :=
      ⟨more, fun c member => digits c (.tail _ member)⟩
    simpa using Unsigned.parts whole (.digits fraction) third

/-- A fraction is printed as a sign and a number. -/
theorem exists_literal_eq (x : Binary64) :
    ∃ body, x.literal = minus x.signed ++ body ∧ Unsigned body := by
  unfold Binary64.literal
  simp only
  split
  · exact ⟨_, rfl, by simpa using Unsigned.parts wholePart_zero fractionPart_zero .none⟩
  · next nonzero =>
    split
    · exact ⟨_, rfl, unsigned_positional (Binary64.proper_shortest (by simpa using nonzero))⟩
    · refine ⟨_, List.append_assoc .., unsigned_mantissa _ (exponentPart_power _)⟩

/-- An exponent is printed with its sign. -/
example :
    [Binary64.ofNat (Nat.pow 10 16), Binary64.ofRatio 1 (Nat.pow 10 6)].map Binary64.literal
      = ["1e+16".toList, "1e-6".toList] := by
  decide +kernel

/-- **Every number is printed legibly.** -/
theorem Number.legible (n : Number) : n.Legible := by
  have read (negative : Bool) {body : List Char} (unsigned : Unsigned body) :
      readNumber ((minus negative ++ body).map some) =
        some (.number (minus negative ++ body), []) := by
    obtain ⟨first, second, third⟩ := unsigned
    simpa only [List.append_assoc] using readNumber_parts negative first second third
  have whole (n : Nat) : Unsigned (Decimal.digits n) := by
    simpa using Unsigned.parts (wholePart_digits n) .none .none
  cases n with
  | natural n => exact read false (whole n)
  | negative n => exact read true (whole n)
  | fraction x =>
    obtain ⟨body, literal, unsigned⟩ := exists_literal_eq x
    rw [Number.Legible, Number.chars, literal]
    exact read x.signed unsigned

end Json

end Orthography
