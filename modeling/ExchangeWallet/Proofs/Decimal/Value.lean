import ExchangeWallet.Decimal.Basic
import ExchangeWallet.Proofs.Numerals
/-!
# The value of a decimal

A decimal stands for a rational number, its signed coefficient over a power of ten.
The normal form has the same value. The positional text of a decimal denotes the
value too, by a reading of its own that knows nothing of coefficients and scales: so
decimals with one text are equal amounts.
-/
namespace ExchangeWallet.Decimal

/-- The rational number that a decimal stands for. -/
def value (decimal : Decimal) : ℚ :=
  (if decimal.negative then -1 else 1) * (decimal.coefficient / 10 ^ decimal.scale)

/-- Without its sign, a decimal is its coefficient over a power of ten. -/
theorem abs_value (decimal : Decimal) :
    |decimal.value| = decimal.coefficient / 10 ^ decimal.scale := by
  have positive : (0 : ℚ) ≤ decimal.coefficient / 10 ^ decimal.scale := by positivity
  rw [value, abs_mul, abs_of_nonneg positive]
  cases decimal.negative <;> simp

/-- No decimal is larger than the largest coefficient, with either sign. -/
theorem abs_value_le (decimal : Decimal) : |decimal.value| ≤ 2 ^ 96 - 1 := by
  have fits : (decimal.coefficient : ℚ) ≤ 2 ^ 96 - 1 := by
    rw [le_sub_iff_add_le]
    exact_mod_cast decimal.coefficient_lt
  rw [abs_value]
  exact (div_le_self (Nat.cast_nonneg _) (one_le_pow₀ (by norm_num))).trans fits

/-- No decimal is larger than the largest coefficient. -/
theorem value_le (decimal : Decimal) : decimal.value ≤ 2 ^ 96 - 1 :=
  (le_abs_self _).trans decimal.abs_value_le

/-- A decimal is zero if its coefficient is. -/
theorem value_eq_zero_iff (decimal : Decimal) : decimal.value = 0 ↔ decimal.coefficient = 0 := by
  have power : (10 : ℚ) ^ decimal.scale ≠ 0 := by positivity
  rw [← abs_eq_zero, abs_value, div_eq_zero_iff, or_iff_left power, Nat.cast_eq_zero]

/-- A decimal that is not zero is not below the last place. -/
theorem le_abs_value {decimal : Decimal} (nonzero : decimal.value ≠ 0) :
    1 / 10 ^ 28 ≤ |decimal.value| := by
  have some : (1 : ℚ) ≤ decimal.coefficient := by
    rw [ne_eq, value_eq_zero_iff] at nonzero
    exact_mod_cast Nat.one_le_iff_ne_zero.mpr nonzero
  have power : (10 : ℚ) ^ decimal.scale ≤ 10 ^ 28 :=
    pow_le_pow_right₀ (by norm_num) decimal.scale_le
  rw [abs_value]
  exact div_le_div₀ (Nat.cast_nonneg _) some (by positivity) power

/-- The number that the digits around a point denote. -/
def magnitudeOf (text : List Char) : ℚ :=
  let whole := text.takeWhile (· ≠ '.')
  let fraction := (text.dropWhile (· ≠ '.')).drop 1
  Nat.ofDigitChars 10 (whole ++ fraction) 0 / 10 ^ fraction.length

/-- The number that a positional text denotes. -/
def denoted : List Char → ℚ
  | '-' :: text => -magnitudeOf text
  | text => magnitudeOf text

/-- Dropping a zero behind the point divides coefficient and power alike. -/
theorem trimZeros_value (coefficient scale : Nat) :
    ((trimZeros coefficient scale).1 : ℚ) / 10 ^ (trimZeros coefficient scale).2 =
      coefficient / 10 ^ scale := by
  induction scale generalizing coefficient with
  | zero => rfl
  | succ scale inductionHypothesis =>
    rw [trimZeros]
    split
    · next divisible =>
      obtain ⟨tenth, rfl⟩ := Nat.dvd_of_mod_eq_zero divisible
      rw [inductionHypothesis, Nat.mul_div_cancel_left tenth (by decide), pow_succ', Nat.cast_mul]
      exact (mul_div_mul_left _ _ (by norm_num)).symm
    · rfl

/-- The normal form of a decimal has its value. Only zero loses its sign, and it has
none to lose as a number. -/
theorem value_normalize (decimal : Decimal) : decimal.normalize.value = decimal.value := by
  have trimmed := trimZeros_value decimal.coefficient decimal.scale
  change (if decimal.normalize.negative then -1 else 1) *
    (((trimZeros decimal.coefficient decimal.scale).1 : ℚ) /
      10 ^ (trimZeros decimal.coefficient decimal.scale).2) = decimal.value
  rw [trimmed, value]
  by_cases zero : decimal.coefficient = 0
  · simp [zero]
  · simp [normalize, zero]

/-- The digits of a decimal are digits. -/
theorem digits_areDigits (decimal : Decimal) :
    ∀ character ∈ decimal.digits, character.isDigit := by
  intro character member
  rcases List.mem_append.mp member with leading | significant
  · rw [(List.mem_replicate.mp leading).2]
    decide
  · exact Numeral.naturalText_digits decimal.coefficient character significant

/-- Zeros in front leave the coefficient as it is. -/
theorem digits_value (decimal : Decimal) :
    Nat.ofDigitChars 10 decimal.digits 0 = decimal.coefficient := by
  rw [digits, Nat.ofDigitChars_append, Nat.ofDigitChars_replicate_zero, Nat.mul_zero,
    Numeral.naturalText_value]

/-- At least one digit stands in front of the point. -/
theorem scale_lt_length_digits (decimal : Decimal) : decimal.scale < decimal.digits.length := by
  have positive := List.length_pos_iff.mpr (Numeral.naturalText_nonempty decimal.coefficient)
  simp only [digits, List.length_append, List.length_replicate]
  omega

/-- A digit is not a point. -/
theorem ne_point_of_digits {digits : List Char}
    (areDigits : ∀ character ∈ digits, character.isDigit) :
    ∀ character ∈ digits, decide (character ≠ '.') = true := by
  intro character member
  rw [decide_eq_true_iff]
  exact Numeral.ne_of_isDigit (areDigits character member) rfl

/-- Digits without a point denote a whole number. -/
theorem magnitudeOf_digits {digits : List Char}
    (areDigits : ∀ character ∈ digits, character.isDigit) :
    magnitudeOf digits = Nat.ofDigitChars 10 digits 0 := by
  have notPoint := ne_point_of_digits areDigits
  rw [magnitudeOf, List.takeWhile_eq_self_iff.mpr notPoint, List.dropWhile_eq_nil_iff.mpr notPoint]
  simp

/-- The digits on both sides of a point denote their number over a power of ten. -/
theorem magnitudeOf_point {whole : List Char} (fraction : List Char)
    (areDigits : ∀ character ∈ whole, character.isDigit) :
    magnitudeOf (whole ++ '.' :: fraction) =
      Nat.ofDigitChars 10 (whole ++ fraction) 0 / 10 ^ fraction.length := by
  have notPoint := ne_point_of_digits areDigits
  rw [magnitudeOf, List.takeWhile_append_of_pos notPoint, List.dropWhile_append_of_pos notPoint]
  simp

/-- The text of a decimal without its sign. -/
def unsignedText (decimal : Decimal) : List Char :=
  if decimal.scale = 0 then decimal.digits
  else decimal.digits.take (decimal.digits.length - decimal.scale) ++
    '.' :: decimal.digits.drop (decimal.digits.length - decimal.scale)

/-- Without its sign, the text of a decimal denotes the coefficient over its power. -/
theorem magnitudeOf_unsignedText (decimal : Decimal) :
    magnitudeOf decimal.unsignedText = decimal.coefficient / 10 ^ decimal.scale := by
  have longer := decimal.scale_lt_length_digits
  rw [unsignedText]
  split
  · next whole => rw [magnitudeOf_digits decimal.digits_areDigits, digits_value, whole]; simp
  · have before : ∀ character ∈ decimal.digits.take (decimal.digits.length - decimal.scale),
        character.isDigit := by
      intro character member
      exact decimal.digits_areDigits character (List.mem_of_mem_take member)
    have places : (decimal.digits.drop (decimal.digits.length - decimal.scale)).length =
        decimal.scale := by
      rw [List.length_drop]
      omega
    rw [magnitudeOf_point _ before, List.take_append_drop, digits_value, places]

/-- Without its sign, the text of a decimal begins with a digit. -/
theorem unsignedText_leading (decimal : Decimal) :
    ∃ character rest, decimal.unsignedText = character :: rest ∧ character.isDigit := by
  have longer := decimal.scale_lt_length_digits
  have areDigits := decimal.digits_areDigits
  cases written : decimal.digits with
  | nil => simp [written] at longer
  | cons first rest =>
    rw [written] at longer areDigits
    have digit := areDigits first (by simp)
    by_cases whole : decimal.scale = 0
    · exact ⟨first, rest, by simp [unsignedText, whole, written], digit⟩
    · obtain ⟨count, taken⟩ : ∃ count, (first :: rest).length - decimal.scale = count + 1 :=
        ⟨(first :: rest).length - decimal.scale - 1, by omega⟩
      refine ⟨first, rest.take count ++ '.' :: rest.drop count, ?_, digit⟩
      rw [unsignedText, if_neg whole, written, taken]
      rfl

/-- The text of a decimal denotes its value. -/
theorem denoted_text (decimal : Decimal) : denoted decimal.text = decimal.value := by
  have magnitude := decimal.magnitudeOf_unsignedText
  have written : decimal.text =
      if decimal.negative then '-' :: decimal.unsignedText else decimal.unsignedText := rfl
  rw [written, value, ← magnitude]
  cases decimal.negative with
  | true => simp [denoted]
  | false =>
    obtain ⟨first, rest, opening, digit⟩ := decimal.unsignedText_leading
    have notMinus : first ≠ '-' := Numeral.ne_of_isDigit digit rfl
    simp [opening, denoted, notMinus]

/-- Decimals whose normal forms have one text are equal amounts. -/
theorem value_eq_of_text_normalize_eq {first second : Decimal}
    (same : toString first.normalize = toString second.normalize) : first.value = second.value := by
  have texts : first.normalize.text = second.normalize.text := String.ofList_injective same
  rw [← value_normalize first, ← value_normalize second, ← denoted_text, ← denoted_text, texts]

end ExchangeWallet.Decimal
