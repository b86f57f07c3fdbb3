import Mathlib
import ExchangeWallet.Numeral
/-!
# Numerals

The text of a natural number has digits only, at least one of them, and no zero in
front of another digit. Its digits give the number back, so different numbers have
different texts.
-/
namespace ExchangeWallet.Numeral

/-- A digit is no other character. -/
theorem ne_of_isDigit {character other : Char} (digit : character.isDigit)
    (notDigit : other.isDigit = false) : character ≠ other := by
  rintro rfl
  exact absurd (digit.symm.trans notDigit) (by decide)

/-- A run of digits does not begin with another character. -/
theorem ne_cons_of_digits {digits others : List Char} {other : Char}
    (areDigits : ∀ character ∈ digits, character.isDigit) (notDigit : other.isDigit = false) :
    digits ≠ other :: others := by
  rintro rfl
  exact ne_of_isDigit (areDigits other (by simp)) notDigit rfl

/-- A digit has the value of its place behind zero. -/
theorem digit?_of_isDigit {character : Char} (digit : character.isDigit) :
    digit? character = some (character.toNat - '0'.toNat) := by
  rw [digit?, if_pos digit]

/-- The value of a digit is below ten. -/
theorem digit_lt {character : Char} (digit : character.isDigit) :
    character.toNat - '0'.toNat < 10 := by
  rw [Char.isDigit, Bool.and_eq_true, decide_eq_true_eq, decide_eq_true_eq] at digit
  have below : character.toNat ≤ '9'.toNat := digit.2
  have zero : '0'.toNat = 48 := rfl
  have nine : '9'.toNat = 57 := rfl
  omega

/-- A numeral consists of digits. -/
theorem naturalText_digits (number : Nat) : ∀ character ∈ naturalText number, character.isDigit := by
  intro character member
  exact Nat.isDigit_of_mem_toDigits (by decide) (by decide) member

/-- A numeral has a digit, also that of zero. -/
theorem naturalText_nonempty (number : Nat) : naturalText number ≠ [] :=
  Nat.toDigits_ne_nil

/-- The digits of a numeral add up to its number. -/
theorem naturalText_value (number : Nat) : Nat.ofDigitChars 10 (naturalText number) 0 = number :=
  Nat.ofDigitChars_ten_toDigits

/-- A run of digits is read as the number that they make. -/
theorem natural?_digits {digits : List Char} (nonempty : digits ≠ [])
    (areDigits : ∀ character ∈ digits, character.isDigit) :
    natural? digits = some (Nat.ofDigitChars 10 digits 0) := by
  rw [natural?, if_pos ⟨nonempty, List.all_eq_true.mpr areDigits⟩]

/-- A numeral is read as its number. -/
@[simp]
theorem natural?_naturalText (number : Nat) : natural? (naturalText number) = some number := by
  rw [natural?_digits (naturalText_nonempty number) (naturalText_digits number),
    naturalText_value]

/-- A numeral begins with a digit. -/
theorem naturalText_opening (number : Nat) :
    ∃ character rest, naturalText number = character :: rest ∧ character.isDigit := by
  have areDigits := naturalText_digits number
  cases written : naturalText number with
  | nil => exact absurd written (naturalText_nonempty number)
  | cons character rest =>
    rw [written] at areDigits
    exact ⟨character, rest, rfl, areDigits character (by simp)⟩

/-- A run of digits is read as the number that they make, and behind a minus sign as the negative
one. -/
theorem integer?_digits {digits : List Char} (nonempty : digits ≠ [])
    (areDigits : ∀ character ∈ digits, character.isDigit) :
    integer? digits = some (Nat.ofDigitChars 10 digits 0 : Int) ∧
      integer? ('-' :: digits) = some (-(Nat.ofDigitChars 10 digits 0 : Int)) := by
  have read := natural?_digits nonempty areDigits
  constructor
  · rw [integer?.eq_def]
    split
    next => exact absurd rfl (ne_cons_of_digits areDigits rfl)
    next => exact absurd rfl (ne_cons_of_digits areDigits rfl)
    next =>
      rw [read]
      rfl
  · rw [integer?, read]
    rfl

/-- A run of digits is read as the number that they make if that is below a bound, also behind
a plus sign. -/
theorem naturalBelow?_digits (bound : Nat) {digits : List Char} (nonempty : digits ≠ [])
    (areDigits : ∀ character ∈ digits, character.isDigit) :
    let found := if Nat.ofDigitChars 10 digits 0 < bound then some (Nat.ofDigitChars 10 digits 0)
      else none
    naturalBelow? bound digits = found ∧ naturalBelow? bound ('+' :: digits) = found := by
  have admitted : (natural? digits).filter (fun number => decide (number < bound)) =
      if Nat.ofDigitChars 10 digits 0 < bound then some (Nat.ofDigitChars 10 digits 0)
      else none := by
    rw [natural?_digits nonempty areDigits, Option.filter_some]
    simp only [decide_eq_true_eq]
  constructor
  · rw [naturalBelow?.eq_def]
    split
    next => exact absurd rfl (ne_cons_of_digits areDigits rfl)
    next => exact admitted
  · exact admitted

/-- A text is the numeral of one number at most. -/
theorem naturalText_injective {first second : Nat}
    (same : naturalText first = naturalText second) : first = second := by
  rw [← naturalText_value first, same, naturalText_value]

/-- The numeral of a positive number does not begin with zero. A single digit is not
zero, and a longer numeral begins as the one of a tenth of its number does. -/
theorem naturalText_leading (number : Nat) (positive : 0 < number) :
    (naturalText number).head? ≠ some '0' := by
  induction number using Nat.strongRecOn with
  | ind number inductionHypothesis =>
    unfold naturalText at inductionHypothesis ⊢
    by_cases small : number < 10
    · have single : ∀ digit < 10, 0 < digit → [Nat.digitChar digit].head? ≠ some '0' := by decide
      rw [Nat.toDigits_of_lt_base small]
      exact single number small positive
    · rw [Nat.toDigits_of_base_le (by decide) (by omega), List.head?_append]
      have tenth := inductionHypothesis (number / 10) (by omega) (by omega)
      cases found : (Nat.toDigits 10 (number / 10)).head? with
      | none => simp at found
      | some first => simpa [found] using tenth

/-- A zero in front stands alone. -/
theorem naturalText_leading_zero (number : Nat) :
    ¬((naturalText number).head? = some '0' ∧ (naturalText number).length ≠ 1) := by
  rintro ⟨leading, longer⟩
  rcases Nat.eq_zero_or_pos number with rfl | positive
  · exact longer (by simp [naturalText])
  · exact naturalText_leading number positive leading

/-- The last digit of a numeral is what is left of its number behind the tens. -/
theorem naturalText_last (number : Nat) :
    ∃ front, naturalText number = front ++ [Nat.digitChar (number % 10)] := by
  unfold naturalText
  by_cases small : number < 10
  · exact ⟨[], by rw [Nat.toDigits_of_lt_base small, Nat.mod_eq_of_lt small, List.nil_append]⟩
  · exact ⟨_, Nat.toDigits_of_base_le (by decide) (by omega)⟩

/-- A numeral is as long as the powers of ten say that its number is. -/
theorem length_naturalText_le_iff {number length : Nat} (positive : 0 < length) :
    (naturalText number).length ≤ length ↔ number < 10 ^ length :=
  Nat.length_toDigits_le_iff (by decide) positive

/-- Digits behind a value raise it by as many powers of ten. -/
theorem power_mul_le_ofDigitChars (digits : List Char) (value : Nat) :
    10 ^ digits.length * value ≤ Nat.ofDigitChars 10 digits value := by
  rw [Nat.ofDigitChars_eq_ofDigitChars_zero]
  exact Nat.le_add_right _ _

/-- Digits behind a value do not lower it. -/
theorem le_ofDigitChars (digits : List Char) (value : Nat) :
    value ≤ Nat.ofDigitChars 10 digits value :=
  (Nat.le_mul_of_pos_left value (Nat.pow_pos (by decide))).trans
    (power_mul_le_ofDigitChars digits value)

/-- Digits behind a value raise it by less than the next power of ten. -/
theorem ofDigitChars_lt {digits : List Char}
    (areDigits : ∀ character ∈ digits, character.isDigit) (value : Nat) :
    Nat.ofDigitChars 10 digits value < 10 ^ digits.length * (value + 1) := by
  induction digits generalizing value with
  | nil => simp
  | cons character others inductionHypothesis =>
    have digit := digit_lt (areDigits character (by simp))
    have behind := inductionHypothesis (fun other member => areDigits other (by simp [member]))
      (10 * value + (character.toNat - '0'.toNat))
    rw [Nat.ofDigitChars_cons, List.length_cons]
    calc _ < 10 ^ others.length * (10 * value + (character.toNat - '0'.toNat) + 1) := behind
      _ ≤ 10 ^ others.length * (10 * (value + 1)) := Nat.mul_le_mul_left _ (by omega)
      _ = 10 ^ (others.length + 1) * (value + 1) := by rw [pow_succ, Nat.mul_assoc]

end ExchangeWallet.Numeral
