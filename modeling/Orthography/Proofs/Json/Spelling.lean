import Mathlib.Data.List.TakeWhile
import Orthography.Json.Decode
import Orthography.Json.Printer

/-!
# Numbers that read back

Whole numbers of 64 bits are printed as their own spelling (`Json.spelled_natural`,
`Json.spelled_negative`).  Fractions need not be: their text is exact, but it is read in one
multiplication or division, which may be off by a little.  Those whose text stands for them
(`Json.Number.ReadsBack`) are printed as their own spelling, too (`Json.spelled_of_readsBack`).

What is read from the text of a number is the same when something follows it that does not go on
with the number (`Json.readNumber_append`), and its spelling is that text (`Json.eq_of_readNumber`).
-/

namespace Orthography

set_option autoImplicit false

/-! ## Decimal digits -/

namespace Decimal

theorem isDigit_digitChar : ∀ n < 10, (digitChar n).isDigit = true := by decide

theorem digitValue_digitChar : ∀ n < 10, digitValue (digitChar n) = n := by decide

theorem digitChar_ne_zero : ∀ n < 10, n ≠ 0 → digitChar n ≠ '0' := by decide

theorem digits_ne_nil (n : Nat) : digits n ≠ [] := by
  rw [digits]
  split <;> simp

theorem isDigit_of_mem_digits {n : Nat} {c : Char} (member : c ∈ digits n) : c.isDigit = true := by
  induction n using Nat.strongRecOn with
  | ind n ih =>
    rw [digits] at member
    split at member
    · next small =>
      rw [List.mem_singleton.mp member]
      exact isDigit_digitChar n small
    · rcases List.mem_append.mp member with front | last
      · exact ih (n / 10) (by omega) front
      · rw [List.mem_singleton.mp last]
        exact isDigit_digitChar _ (by omega)

/-- A number is written in nothing but digits. -/
theorem not_mem_digits {c : Char} (other : c.isDigit = false) (n : Nat) : c ∉ digits n := by
  intro member
  have digit := isDigit_of_mem_digits member
  rw [other] at digit
  cases digit

/-- Digits stand for the number that they were made from. -/
theorem value_digits (n : Nat) : value (digits n) = n := by
  induction n using Nat.strongRecOn with
  | ind n ih =>
    rw [digits]
    split
    · next small => simp [value, digitValue_digitChar n small]
    · have front := ih (n / 10) (by omega)
      rw [value] at front ⊢
      rw [List.foldl_append, front, List.foldl_cons, List.foldl_nil,
        digitValue_digitChar _ (by omega)]
      omega

/-- Only zero is written with a zero in front. -/
theorem digits_eq_cons {n : Nat} (positive : n ≠ 0) :
    ∃ c rest, digits n = c :: rest ∧ c ≠ '0' := by
  induction n using Nat.strongRecOn with
  | ind n ih =>
    rw [digits]
    split
    · next small => exact ⟨digitChar n, [], rfl, digitChar_ne_zero n small positive⟩
    · obtain ⟨c, rest, front, nonzero⟩ := ih (n / 10) (by omega) (by omega)
      exact ⟨c, rest ++ [digitChar (n % 10)], by rw [front, List.cons_append], nonzero⟩

end Decimal

namespace Json

/-! ## Reading on -/

/-- What follows a number does not go on with it. -/
def EndsNumber (rest : Text) : Prop :=
  ∀ c more, rest = some c :: more → c.isDigit = false ∧ c ≠ '.' ∧ c ≠ 'e' ∧ c ≠ 'E'

theorem endsNumber_nil : EndsNumber [] := by
  intro c more impossible
  cases impossible

theorem endsNumber_cons {c : Char} (other : c.isDigit = false ∧ c ≠ '.' ∧ c ≠ 'e' ∧ c ≠ 'E')
    (more : Text) : EndsNumber (some c :: more) := by
  intro d rest same
  cases same
  exact other

variable {text after rest : Text}

/-- Digits are read up to the end of the number. -/
theorem readDigits_append (ends : EndsNumber rest) (text : Text) :
    readDigits (text ++ rest) = ((readDigits text).1, (readDigits text).2 ++ rest) := by
  induction text with
  | nil =>
    cases rest with
    | nil => rfl
    | cons c more =>
      cases c with
      | none => rfl
      | some c => simp [readDigits, (ends c more rfl).1]
  | cons c more ih =>
    cases c with
    | none => rfl
    | some c =>
      rw [List.cons_append, readDigits, readDigits]
      split
      · rw [ih]
      · rfl

theorem readWhole_append (ends : EndsNumber rest) {digits : List Char}
    (read : readWhole text = some (digits, after)) :
    readWhole (text ++ rest) = some (digits, after ++ rest) := by
  unfold readWhole at read ⊢
  rw [readDigits_append ends]
  generalize readDigits text = pair at read ⊢
  split at read
  · cases read
  · cases read
  · next notEmpty notZero =>
    cases read
    split
    · next equal => cases equal; exact absurd rfl (notEmpty _)
    · next equal => cases equal; exact absurd rfl (notZero _ _ _)
    · rfl

theorem readFraction_append (ends : EndsNumber rest) {digits : List Char}
    (read : readFraction text = some (digits, after)) :
    readFraction (text ++ rest) = some (digits, after ++ rest) := by
  cases text with
  | nil =>
    cases read
    cases rest with
    | nil => rfl
    | cons c more =>
      cases c with
      | none => rfl
      | some c =>
        rw [List.nil_append, readFraction]
        rintro more ⟨⟩
        exact (ends _ _ rfl).2.1 rfl
  | cons c more =>
    by_cases point : c = some '.'
    · subst point
      rw [List.cons_append]
      simp only [readFraction, readDigits_append ends] at read ⊢
      generalize readDigits more = pair at read ⊢
      split at read
      · cases read
      · cases read
        rfl
    · rw [List.cons_append]
      rw [readFraction] at read ⊢
      · cases read
        rfl
      · rintro more ⟨⟩
        exact point rfl
      · rintro more ⟨⟩
        exact point rfl

theorem readSign_append (some : text ≠ []) (rest : Text) :
    readSign (text ++ rest) = ((readSign text).1, (readSign text).2 ++ rest) := by
  cases text with
  | nil => exact absurd rfl some
  | cons c more =>
    by_cases plus : c = Option.some '+'
    · subst plus
      rfl
    · by_cases minus : c = Option.some '-'
      · subst minus
        rfl
      · rw [List.cons_append, readSign, readSign, List.cons_append]
        all_goals
          rintro tail ⟨⟩
          first | exact plus rfl | exact minus rfl

theorem readExponent_append (ends : EndsNumber rest) {chars : List Char}
    (read : readExponent text = some (chars, after)) :
    readExponent (text ++ rest) = some (chars, after ++ rest) := by
  cases text with
  | nil =>
    cases read
    cases rest with
    | nil => rfl
    | cons c more =>
      cases c with
      | none => rfl
      | some c =>
        obtain ⟨-, -, small, large⟩ := ends c more rfl
        rw [List.nil_append, readExponent, if_neg (by simp [small, large])]
  | cons c more =>
    cases c with
    | none =>
      cases read
      rfl
    | some c =>
      rw [List.cons_append]
      rw [readExponent] at read ⊢
      split
      · next letter =>
        rw [if_pos letter] at read
        cases more with
        | nil => simp [readSign, readDigits] at read
        | cons d tail =>
          rw [readSign_append (List.cons_ne_nil d tail), readDigits_append ends]
          generalize readSign (d :: tail) = signed at read ⊢
          generalize readDigits signed.2 = pair at read ⊢
          split at read
          · cases read
          · cases read
            rfl
      · next other =>
        rw [if_neg other] at read
        cases read
        rfl

theorem readMinus_append (some : text ≠ []) (rest : Text) :
    readMinus (text ++ rest) = ((readMinus text).1, (readMinus text).2 ++ rest) := by
  cases text with
  | nil => exact absurd rfl some
  | cons c more =>
    by_cases minus : c = Option.some '-'
    · subst minus
      rfl
    · rw [List.cons_append, readMinus, readMinus, List.cons_append]
      all_goals
        rintro tail ⟨⟩
        exact minus rfl

/-- The parts that a number is read from. -/
theorem readNumber_eq_some {spelling : List Char} :
    readNumber text = some (.number spelling, after) ↔
      ∃ whole fraction exponent first second,
        readWhole (readMinus text).2 = some (whole, first) ∧
          readFraction first = some (fraction, second) ∧
            readExponent second = some (exponent, after) ∧
              spelling = (readMinus text).1 ++ whole ++ fraction ++ exponent := by
  unfold readNumber
  constructor
  · intro read
    cases whole : readWhole (readMinus text).2 with
    | none => simp [whole] at read
    | some first =>
      cases fraction : readFraction first.2 with
      | none => simp [whole, fraction] at read
      | some second =>
        cases exponent : readExponent second.2 with
        | none => simp [whole, fraction, exponent] at read
        | some third =>
          simp only [whole, fraction, exponent, Option.bind_eq_bind, Option.bind_some,
            Option.pure_def, Option.some.injEq, Prod.mk.injEq, Form.number.injEq] at read
          obtain ⟨rfl, rfl⟩ := read
          exact ⟨first.1, second.1, third.1, first.2, second.2, rfl, fraction, exponent, rfl⟩
  · rintro ⟨whole, fraction, exponent, first, second, readFirst, readSecond, readThird, rfl⟩
    simp [readFirst, readSecond, readThird]

/-- **A number is read up to its end**, whatever follows it that does not go on with it. -/
theorem readNumber_append (ends : EndsNumber rest) {spelling : List Char}
    (read : readNumber text = some (.number spelling, after)) :
    readNumber (text ++ rest) = some (.number spelling, after ++ rest) := by
  rw [readNumber_eq_some] at read ⊢
  obtain ⟨whole, fraction, exponent, first, second, readFirst, readSecond, readThird, spelled⟩ :=
    read
  have some : text ≠ [] := by
    rintro rfl
    simp [readMinus, readWhole, readDigits] at readFirst
  refine ⟨whole, fraction, exponent, first ++ rest, second ++ rest, ?_,
    readFraction_append ends readSecond, readExponent_append ends readThird, ?_⟩
  · rw [readMinus_append some]
    exact readWhole_append ends readFirst
  · rw [readMinus_append some]
    exact spelled

/-! ## What a spelling is made of -/

theorem eq_of_readDigits (text : Text) :
    text = (readDigits text).1.map some ++ (readDigits text).2 := by
  induction text with
  | nil => rfl
  | cons c more ih =>
    cases c with
    | none => rfl
    | some c =>
      rw [readDigits]
      split
      · rw [List.map_cons, List.cons_append, ← ih]
      · rfl

theorem eq_of_readMinus (text : Text) :
    text = (readMinus text).1.map some ++ (readMinus text).2 := by
  unfold readMinus
  split <;> rfl

theorem eq_of_readSign (text : Text) :
    text = (readSign text).1.map some ++ (readSign text).2 := by
  unfold readSign
  split <;> rfl

theorem eq_of_readWhole {digits : List Char} (read : readWhole text = some (digits, after)) :
    text = digits.map some ++ after := by
  have whole := eq_of_readDigits text
  unfold readWhole at read
  generalize readDigits text = pair at read whole
  split at read
  · cases read
  · cases read
  · cases read
    exact whole

theorem eq_of_readFraction {digits : List Char} (read : readFraction text = some (digits, after)) :
    text = digits.map some ++ after := by
  unfold readFraction at read
  split at read
  · next more =>
    have whole := eq_of_readDigits more
    generalize readDigits more = pair at read whole
    split at read
    · cases read
    · cases read
      rw [whole]
      rfl
  · cases read
    rfl

/-- The letter of an exponent is spelled small. -/
theorem eq_of_readExponent (small : some 'E' ∉ text) {chars : List Char}
    (read : readExponent text = some (chars, after)) : text = chars.map some ++ after := by
  unfold readExponent at read
  split at read
  · next c more =>
    split at read
    · next letter =>
      have same : c = 'e' := by
        have notLarge : c ≠ 'E' := by
          rintro rfl
          exact small List.mem_cons_self
        simpa [notLarge] using letter
      have digits := eq_of_readDigits (readSign more).2
      have signed := eq_of_readSign more
      generalize readSign more = sign at read digits signed
      generalize readDigits sign.2 = pair at read digits
      split at read
      · cases read
      · cases read
        rw [signed, digits, same]
        simp
    · cases read
      rfl
  · cases read
    rfl

/-- The spelling of a number is the text that it is read from. -/
theorem eq_of_readNumber (small : some 'E' ∉ text) {spelling : List Char}
    (read : readNumber text = some (.number spelling, after)) :
    text = spelling.map some ++ after := by
  obtain ⟨whole, fraction, exponent, first, second, readFirst, readSecond, readThird, rfl⟩ :=
    readNumber_eq_some.mp read
  have front := eq_of_readMinus text
  rw [eq_of_readWhole readFirst, eq_of_readFraction readSecond] at front
  have smallSecond : some 'E' ∉ second := by
    intro member
    refine small ?_
    rw [front]
    simp [member]
  rw [eq_of_readExponent smallSecond readThird] at front
  simpa using front

/-! ## Numbers that read back -/

/-- The text that a number is printed as stands for this number. -/
def Number.ReadsBack (n : Number) : Prop :=
  ofText? (String.ofList n.chars) = some (.number n)

/-- The text that a number is printed as is read as a number. -/
def Number.Legible (n : Number) : Prop :=
  readNumber (n.chars.map some) = some (.number n.chars, [])

/-- A number that is printed as its own spelling. -/
structure Number.Spelled (n : Number) : Prop where
  legible : n.Legible
  value : Number.ofSpelling? n.chars = some n

/-- Collecting digits gives their value, as long as it fits. -/
theorem collect_eq_foldl {limit start : Nat} {row : List Char}
    (fits : row.foldl (fun value c => value * 10 + Decimal.digitValue c) start ≤ limit) :
    collect limit start row =
      (row.foldl (fun value c => value * 10 + Decimal.digitValue c) start, row.length, 0) := by
  -- Collecting more digits never makes a number smaller.
  have grows (row : List Char) (start : Nat) :
      start ≤ row.foldl (fun value c => value * 10 + Decimal.digitValue c) start := by
    induction row generalizing start with
    | nil => exact Nat.le_refl start
    | cons c rest ih =>
      refine Nat.le_trans ?_ (ih (start * 10 + Decimal.digitValue c))
      omega
  induction row generalizing start with
  | nil => rfl
  | cons c rest ih =>
    rw [List.foldl_cons] at fits ⊢
    have next := Nat.le_trans (grows rest _) fits
    rw [collect, if_neg (Nat.not_lt.mpr next), ih fits]
    rfl

theorem collect_digits {n : Nat} (fits : n ≤ naturalLimit) :
    collect naturalLimit 0 (Decimal.digits n) = (n, (Decimal.digits n).length, 0) := by
  have total : (Decimal.digits n).foldl (fun value c => value * 10 + Decimal.digitValue c) 0 = n :=
    Decimal.value_digits n
  rw [collect_eq_foldl (by rw [total]; exact fits), total]

/-- Digits are read as a whole part. -/
theorem readWhole_digits (n : Nat) :
    readWhole ((Decimal.digits n).map some) = some (Decimal.digits n, []) := by
  have all (row : List Char) (digits : ∀ c ∈ row, c.isDigit = true) :
      readDigits (row.map some) = (row, []) := by
    induction row with
    | nil => rfl
    | cons c rest ih =>
      rw [List.map_cons, readDigits, if_pos (digits c List.mem_cons_self),
        ih fun d member => digits d (List.mem_cons_of_mem _ member)]
  rw [readWhole, all _ fun c => Decimal.isDigit_of_mem_digits]
  by_cases zero : n = 0
  · subst zero
    rw [Decimal.digits]
    rfl
  · obtain ⟨c, rest, first, nonzero⟩ := Decimal.digits_eq_cons zero
    rw [first]
    split
    · next equal => cases equal
    · next equal => cases equal; exact absurd rfl nonzero
    · rfl

theorem takeWhile_digits (n : Nat) :
    (Decimal.digits n).takeWhile Char.isDigit = Decimal.digits n ∧
      (Decimal.digits n).dropWhile Char.isDigit = [] := by
  constructor
  · rw [List.takeWhile_eq_self_iff]
    exact fun c => Decimal.isDigit_of_mem_digits
  · rw [List.dropWhile_eq_nil_iff]
    exact fun c => Decimal.isDigit_of_mem_digits

/-- Digits are not taken for a minus sign. -/
theorem exists_digits_eq_cons (n : Nat) :
    ∃ c rest, Decimal.digits n = c :: rest ∧ c.isDigit = true ∧ c ≠ '-' := by
  cases row : Decimal.digits n with
  | nil => exact absurd row (Decimal.digits_ne_nil n)
  | cons c rest =>
    have digit : c.isDigit = true :=
      Decimal.isDigit_of_mem_digits (n := n) (by rw [row]; exact List.mem_cons_self)
    refine ⟨c, rest, rfl, digit, ?_⟩
    rintro rfl
    exact absurd digit (by decide)

theorem Spelling.ofChars_digits (n : Nat) :
    Spelling.ofChars (Decimal.digits n) = ⟨false, Decimal.digits n, none, none⟩ := by
  obtain ⟨take, drop⟩ := takeWhile_digits n
  obtain ⟨c, rest, row, -, noMinus⟩ := exists_digits_eq_cons n
  rw [row] at take drop ⊢
  unfold Spelling.ofChars
  split
  · next equal =>
    split at equal
    · next same => cases same; exact absurd rfl noMinus
    · cases equal
      simp only [take, drop]

theorem Spelling.ofChars_minus_digits (n : Nat) :
    Spelling.ofChars ('-' :: Decimal.digits n) = ⟨true, Decimal.digits n, none, none⟩ := by
  obtain ⟨take, drop⟩ := takeWhile_digits n
  unfold Spelling.ofChars
  simp only [take, drop]

/-- Natural numbers of 64 bits are printed as their own spelling. -/
theorem spelled_natural {n : Nat} (fits : n ≤ naturalLimit) : (Number.natural n).Spelled where
  legible := by
    obtain ⟨c, rest, row, -, noMinus⟩ := exists_digits_eq_cons n
    have minus : readMinus ((Decimal.digits n).map some) = ([], (Decimal.digits n).map some) := by
      rw [row, List.map_cons, readMinus]
      rintro tail ⟨⟩
      exact noMinus rfl
    rw [Number.Legible, Number.chars, readNumber_eq_some]
    exact ⟨Decimal.digits n, [], [], [], [], by rw [minus, readWhole_digits], rfl, rfl,
      by rw [minus]; simp⟩
  value := by
    rw [Number.chars, Number.ofSpelling?, Spelling.ofChars_digits]
    simp [collect_digits fits]

/-- Negative numbers of 64 bits are printed as their own spelling. -/
theorem spelled_negative {n : Nat} (positive : 1 ≤ n) (fits : n ≤ Nat.pow 2 63) :
    (Number.negative n).Spelled where
  legible := by
    rw [Number.Legible, Number.chars, readNumber_eq_some]
    exact ⟨Decimal.digits n, [], [], [], [], by rw [List.map_cons, readMinus, readWhole_digits],
      rfl, rfl, by simp [readMinus]⟩
  value := by
    have small : n ≤ naturalLimit := by
      refine Nat.le_trans fits ?_
      decide
    rw [Number.chars, Number.ofSpelling?, Spelling.ofChars_minus_digits]
    simp [collect_digits small, positive, fits]

/-! ## Fractions -/

/-- A character that may stand in a number as it is printed. -/
def isNumberChar (c : Char) : Bool :=
  c.isDigit || c = '-' || c = '+' || c = '.' || c = 'e'

theorem isNumberChar_of_mem_digits {n : Nat} {c : Char} (member : c ∈ Decimal.digits n) :
    isNumberChar c = true := by
  simp [isNumberChar, Decimal.isDigit_of_mem_digits member]

theorem isNumberChar_of_mem_replicate {count : Nat} {c : Char}
    (member : c ∈ List.replicate count '0') : isNumberChar c = true := by
  rw [List.eq_of_mem_replicate member]
  decide

theorem isNumberChar_of_mem_positional {decimal : Binary64.Shortest} {c : Char}
    (member : c ∈ decimal.positional) : isNumberChar c = true := by
  rw [Binary64.Shortest.positional] at member
  split at member
  · rcases List.mem_append.mp member with digit | zero
    · exact isNumberChar_of_mem_digits digit
    · exact isNumberChar_of_mem_replicate zero
  · simp only at member
    split at member
    · simp only [List.cons_append, List.mem_cons, List.mem_append] at member
      rcases member with rfl | rfl | zero | digit
      · decide
      · decide
      · exact isNumberChar_of_mem_replicate zero
      · exact isNumberChar_of_mem_digits digit
    · simp only [List.mem_append, List.mem_cons] at member
      rcases member with digit | rfl | digit
      · exact isNumberChar_of_mem_digits (List.mem_of_mem_take digit)
      · decide
      · exact isNumberChar_of_mem_digits (List.mem_of_mem_drop digit)

theorem isNumberChar_of_mem_sign {negative : Bool} {c : Char}
    (member : c ∈ if negative then ['-'] else []) : isNumberChar c = true := by
  split at member
  · rw [List.mem_singleton.mp member]
    decide
  · cases member

theorem isNumberChar_of_mem_mantissa {n : Nat} {c : Char}
    (member : c ∈ match Decimal.digits n with
      | [] | [_] => Decimal.digits n
      | first :: rest => first :: '.' :: rest) : isNumberChar c = true := by
  split at member
  · exact isNumberChar_of_mem_digits member
  · exact isNumberChar_of_mem_digits member
  · next first rest _ row =>
    rcases List.mem_cons.mp member with rfl | member
    · exact isNumberChar_of_mem_digits (n := n) (by rw [row]; exact List.mem_cons_self)
    · rcases List.mem_cons.mp member with rfl | member
      · decide
      · exact isNumberChar_of_mem_digits (n := n) (by rw [row]; exact List.mem_cons_of_mem _ member)

theorem isNumberChar_of_mem_power {power : Int} {c : Char}
    (member : c ∈ if power < 0 then '-' :: Decimal.digits (-power).toNat
      else '+' :: Decimal.digits power.toNat) : isNumberChar c = true := by
  have signed {sign : Char} {n : Nat} (kind : isNumberChar sign = true)
      (inside : c ∈ sign :: Decimal.digits n) : isNumberChar c = true := by
    rcases List.mem_cons.mp inside with rfl | digit
    · exact kind
    · exact isNumberChar_of_mem_digits digit
  split at member
  · exact signed (by decide) member
  · exact signed (by decide) member

/-- A fraction is printed with digits, signs, a point and a small letter. -/
theorem isNumberChar_of_mem_literal {x : Binary64} {c : Char} (member : c ∈ x.literal) :
    isNumberChar c = true := by
  unfold Binary64.literal at member
  simp only at member
  split at member
  · rcases List.mem_append.mp member with sign | zero
    · exact isNumberChar_of_mem_sign sign
    · have all : "0.0".toList.all isNumberChar = true := by decide
      exact List.all_eq_true.mp all c zero
  · split at member
    · rcases List.mem_append.mp member with sign | body
      · exact isNumberChar_of_mem_sign sign
      · split at body
        · exact isNumberChar_of_mem_positional body
        · rcases List.mem_append.mp body with inside | zero
          · exact isNumberChar_of_mem_positional inside
          · have all : ".0".toList.all isNumberChar = true := by decide
            exact List.all_eq_true.mp all c zero
    · rcases List.mem_append.mp member with front | power
      · rcases List.mem_append.mp front with sign | mantissa
        · exact isNumberChar_of_mem_sign sign
        · exact isNumberChar_of_mem_mantissa mantissa
      · rcases List.mem_cons.mp power with rfl | power
        · decide
        · exact isNumberChar_of_mem_power power

/-- A character of a class is none that is outside of it. -/
theorem ne_of_class {inClass : Char → Bool} {c d : Char} (inside : inClass c = true)
    (outside : inClass d = false) : c ≠ d := by
  rintro rfl
  rw [inside] at outside
  cases outside

/-- A character that is no white space is not skipped. -/
theorem skipSpace_visible {c : Char}
    (visible : ¬ (c = ' ' || c = '\n' || c = '\t' || c = '\r') = true) (more : Text) :
    skipSpace (some c :: more) = some c :: more := by
  rw [skipSpace, if_neg visible]

/-- A character of a class without white space is not skipped. -/
theorem skipSpace_of_class {inClass : Char → Bool}
    (visible : [' ', '\n', '\t', '\r'].any inClass = false) {c : Char} (inside : inClass c = true)
    (more : Text) : skipSpace (some c :: more) = some c :: more := by
  simp only [List.any_cons, List.any_nil, Bool.or_false, Bool.or_eq_false_iff] at visible
  obtain ⟨space, newline, tab, carriageReturn⟩ := visible
  apply skipSpace_visible
  simp [ne_of_class inside space, ne_of_class inside newline, ne_of_class inside tab,
    ne_of_class inside carriageReturn]

/-- A character that may stand in a number is no white space. -/
theorem skipSpace_of_isNumberChar {c : Char} (start : isNumberChar c = true) (more : Text) :
    skipSpace (some c :: more) = some c :: more :=
  skipSpace_of_class (by decide) start more

/-- A number that starts like one is read as one. -/
theorem readForm_of_isNumberChar {c : Char} (start : isNumberChar c = true) (fuel : Nat)
    (more : Text) : readForm (fuel + 1) (some c :: more) = readNumber (some c :: more) := by
  have differs (d : Char) (other : isNumberChar d = false) : c ≠ d := ne_of_class start other
  rw [readForm, skipSpace_of_isNumberChar start]
  split
  · next same => cases same; exact absurd rfl (differs 'n' (by decide))
  · next same => cases same; exact absurd rfl (differs 't' (by decide))
  · next same => cases same; exact absurd rfl (differs 'f' (by decide))
  · next same => cases same; exact absurd rfl (differs '"' (by decide))
  · next same => cases same; exact absurd rfl (differs '[' (by decide))
  · next same => cases same; exact absurd rfl (differs '\x7b' (by decide))
  · rfl

/-- Only the form of a number stands for a number. -/
theorem exists_spelling_of_ofForm? {room : Nat} {form : Form} {n : Number}
    (value : ofForm? room form = some (.number n)) :
    ∃ spelling, form = .number spelling ∧ Number.ofSpelling? spelling = some n := by
  cases form with
  | null => cases value
  | bool => cases value
  | number spelling =>
    rw [ofForm?, Option.map_eq_some_iff] at value
    obtain ⟨m, read, same⟩ := value
    cases same
    exact ⟨spelling, rfl, read⟩
  | string content =>
    rw [ofForm?, Option.map_eq_some_iff] at value
    obtain ⟨chars, _, impossible⟩ := value
    cases impossible
  | array items =>
    rw [ofForm?] at value
    split at value
    · cases value
    · obtain ⟨values, _, impossible⟩ := Option.map_eq_some_iff.mp value
      cases impossible
  | object members =>
    rw [ofForm?] at value
    split at value
    · cases value
    · obtain ⟨values, _, impossible⟩ := Option.map_eq_some_iff.mp value
      cases impossible

/-- A fraction that reads back is printed as its own spelling. -/
theorem spelled_of_readsBack {x : Binary64} (back : (Number.fraction x).ReadsBack) :
    (Number.fraction x).Spelled := by
  have all : ∀ c ∈ x.literal, isNumberChar c = true := fun c => isNumberChar_of_mem_literal
  rw [Number.ReadsBack, Number.chars, ofText?, String.toList_ofList] at back
  cases whole : Form.ofText? (x.literal.map some) with
  | none => simp [whole] at back
  | some form =>
    simp only [whole, Option.bind_eq_bind, Option.bind_some] at back
    obtain ⟨spelling, rfl, value⟩ := exists_spelling_of_ofForm? back
    have read : ∃ rest, readNumber (x.literal.map some) = some (.number spelling, rest) ∧
        skipSpace rest = [] := by
      cases chars : x.literal with
      | nil =>
        rw [chars] at whole
        simp [Form.ofText?, readForm, skipSpace, readNumber, readMinus, readWhole, readDigits]
          at whole
      | cons c more =>
        have start : isNumberChar c = true := all c (by rw [chars]; exact List.mem_cons_self)
        rw [chars, List.map_cons, Form.ofText?, readForm_of_isNumberChar start] at whole
        rw [List.map_cons]
        cases number : readNumber (some c :: more.map some) with
        | none => simp [number] at whole
        | some result =>
          obtain ⟨form, rest⟩ := result
          simp only [number, Option.bind_eq_bind, Option.bind_some] at whole
          split at whole
          · next blank =>
            cases whole
            exact ⟨rest, rfl, List.isEmpty_iff.mp blank⟩
          · cases whole
    obtain ⟨rest, read, blank⟩ := read
    have small : some 'E' ∉ x.literal.map some := by
      intro member
      obtain ⟨c, inside, same⟩ := List.mem_map.mp member
      cases same
      exact absurd (all 'E' inside) (by decide)
    have text := eq_of_readNumber small read
    -- Nothing in the text is white space, so that nothing is left of it.
    have done : rest = [] := by
      cases rest with
      | nil => rfl
      | cons c more =>
        have inside : c ∈ x.literal.map some := by
          rw [text]
          exact List.mem_append_right _ List.mem_cons_self
        obtain ⟨d, member, same⟩ := List.mem_map.mp inside
        subst same
        rw [skipSpace_of_isNumberChar (all d member)] at blank
        exact blank
    subst done
    have spelled : spelling = x.literal := by
      rw [List.append_nil] at text
      exact (List.map_inj_right fun _ _ => Option.some.inj).mp text.symm
    subst spelled
    exact ⟨read, value⟩

end Json

end Orthography
