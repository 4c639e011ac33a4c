import Orthography.Lexicon.Identifier

/-!
# Identifiers that are written and read

An identifier is read from the text that it is written as (`Identifier.ofChars?_chars`): the groups
of the text are the 32 hexadecimal digits of its number, and the digits stand for the number again.
-/

namespace Orthography.Identifier

set_option autoImplicit false

theorem hexValue?_hexChar : ∀ n < 16, hexValue? (hexChar n) = some n := by decide

/-- Digits are written in one row or in two. -/
theorem hexDigits_add (n front back : Nat) :
    hexDigits n (front + back) = hexDigits (n / Nat.pow 16 back) front ++ hexDigits n back := by
  induction back generalizing n with
  | zero => simp [hexDigits]
  | succ back ih =>
    have deeper : n / 16 / Nat.pow 16 back = n / Nat.pow 16 (back + 1) := by
      show n / 16 / 16 ^ back = n / 16 ^ (back + 1)
      rw [Nat.div_div_eq_div_mul, Nat.pow_succ, Nat.mul_comm]
    rw [← Nat.add_assoc, hexDigits, hexDigits, ih, deeper, List.append_assoc]

/-- Digits stand for the number that they were made from, as far as they go. -/
theorem ofDigits?_hexDigits (value n count : Nat) (rest : List Char) :
    ofDigits? value (hexDigits n count ++ rest) =
      ofDigits? (value * Nat.pow 16 count + n % Nat.pow 16 count) rest := by
  induction count generalizing n rest with
  | zero => simp [hexDigits, Nat.mod_one]
  | succ count ih =>
    have last : hexValue? (hexChar (n % 16)) = some (n % 16) :=
      hexValue?_hexChar _ (Nat.mod_lt _ (by decide))
    have total : (value * Nat.pow 16 count + n / 16 % Nat.pow 16 count) * 16 + n % 16 =
        value * Nat.pow 16 (count + 1) + n % Nat.pow 16 (count + 1) := by
      show (value * 16 ^ count + n / 16 % 16 ^ count) * 16 + n % 16 =
        value * 16 ^ (count + 1) + n % 16 ^ (count + 1)
      rw [Nat.pow_succ', Nat.mod_mul, Nat.mul_left_comm, Nat.mul_comm (16 : Nat)]
      omega
    rw [hexDigits, List.append_assoc, ih, List.singleton_append, ofDigits?, last]
    simp only [Option.bind_eq_bind, Option.bind_some, total]

theorem length_hexDigits (n count : Nat) : (hexDigits n count).length = count := by
  induction count generalizing n with
  | zero => rfl
  | succ count ih => rw [hexDigits, List.length_append, ih, List.length_singleton]

/-- Groups of the right lengths are put together again. -/
theorem digits?_groups {first second third fourth fifth : List Char} (eight : first.length = 8)
    (four : second.length = 4) (four' : third.length = 4) (four'' : fourth.length = 4)
    (twelve : fifth.length = 12) :
    digits? (first ++ '-' :: second ++ '-' :: third ++ '-' :: fourth ++ '-' :: fifth) =
      some (first ++ second ++ third ++ fourth ++ fifth) := by
  simp [digits?, ungroup?, List.drop_append, List.drop_of_length_le, eight, four, four', four'',
    twelve]

/-- The digits of a written identifier are the 32 digits of its number. -/
theorem digits?_chars (id : Identifier) : digits? id.chars = some (hexDigits id.value.toNat 32) := by
  have join (below front back : Nat) :
      hexDigits (id.value.toNat / Nat.pow 2 (below + 4 * back)) front ++
          hexDigits (id.value.toNat / Nat.pow 2 below) back =
        hexDigits (id.value.toNat / Nat.pow 2 below) (front + back) := by
    have power : Nat.pow 2 (below + 4 * back) = Nat.pow 2 below * Nat.pow 16 back := by
      show 2 ^ (below + 4 * back) = 2 ^ below * 16 ^ back
      rw [Nat.pow_add, Nat.pow_mul]
    rw [hexDigits_add, power, Nat.div_div_eq_div_mul]
  rw [chars]
  simp only
  rw [digits?_groups (length_hexDigits _ _) (length_hexDigits _ _) (length_hexDigits _ _)
    (length_hexDigits _ _) (length_hexDigits _ _), join 80 8 4, join 64 12 4, join 48 16 4,
    join 0 20 12]
  simp

/-- **An identifier is read from its own text.** -/
theorem ofChars?_chars (id : Identifier) : ofChars? id.chars = some id := by
  have whole := ofDigits?_hexDigits 0 id.value.toNat 32 []
  have fits : id.value.toNat % Nat.pow 16 32 = id.value.toNat := Nat.mod_eq_of_lt id.value.isLt
  rw [List.append_nil, fits, Nat.zero_mul, Nat.zero_add] at whole
  rw [ofChars?, digits?_chars]
  simp only [Option.bind_eq_bind, Option.bind_some, whole, ofDigits?, Option.pure_def,
    BitVec.ofNat_toNat, BitVec.setWidth_eq]

end Orthography.Identifier
