import ExchangeWallet.Proofs.Binary64.Shortest
/-!
# Texts of scientific decimals

The text of a scientific decimal is positional where its point is near its digits, and has
an exponent elsewhere. Near the point it is made of digits in front of the point and behind it,
whose number over a power of ten is the value.
-/
namespace ExchangeWallet.Scientific

/-- The digits of a decimal. -/
def digits (decimal : Scientific) : List Char :=
  Numeral.naturalText decimal.coefficient

/-- Where the point stands, counted from the first digit. -/
def point (decimal : Scientific) : Int :=
  decimal.exponent + decimal.digits.length

section Layout

variable {decimal : Scientific}

/-- A small decimal is written with zeros behind the point. -/
theorem text_of_small (above : -4 ≤ decimal.point) (below : decimal.point ≤ 0) :
    decimal.text =
      ['0'] ++ '.' :: (List.replicate decimal.point.natAbs '0' ++ decimal.digits) := by
  rw [point, digits] at above below
  have near : -4 ≤ decimal.exponent + (Numeral.naturalText decimal.coefficient).length ∧
      decimal.exponent + (Numeral.naturalText decimal.coefficient).length ≤ 16 := by omega
  rw [text, if_pos near, if_pos below]
  rfl

/-- The text in front of an exponent: the first digit, and the others behind a point. -/
def base (decimal : Scientific) : List Char :=
  decimal.digits.take 1 ++
    if decimal.digits.drop 1 = [] then [] else '.' :: decimal.digits.drop 1

/-- Any other decimal is written with an exponent. -/
theorem text_of_distant (distant : decimal.point < -4 ∨ 16 < decimal.point) :
    decimal.text =
      decimal.base ++
        'e' :: (if decimal.point - 1 < 0 then '-' else '+') ::
          Numeral.naturalText (decimal.point - 1).natAbs := by
  rw [base, point, digits] at *
  rw [text, if_neg (by omega)]

/-- A decimal of middle size is written with the point between its digits. -/
theorem text_of_middle (above : 0 < decimal.point)
    (within : decimal.point.natAbs < decimal.digits.length) (near : decimal.point ≤ 16) :
    decimal.text =
      decimal.digits.take decimal.point.natAbs ++
        '.' :: decimal.digits.drop decimal.point.natAbs := by
  rw [point, digits] at *
  rw [text, if_pos ⟨by omega, near⟩, if_neg (by omega), if_pos within]

/-- A large decimal is written with zeros in front of the point. -/
theorem text_of_large (above : 0 < decimal.point)
    (beyond : decimal.digits.length ≤ decimal.point.natAbs) (near : decimal.point ≤ 16) :
    decimal.text =
      (decimal.digits ++
        List.replicate (decimal.point.natAbs - decimal.digits.length) '0') ++ '.' :: ['0'] := by
  rw [point, digits] at *
  rw [text, if_pos ⟨by omega, near⟩, if_neg (by omega), if_neg (Nat.not_lt_of_le beyond)]
  rfl

end Layout

section Digits

variable {decimal : Scientific}

/-- The digits are digits. -/
theorem digits_areDigits (decimal : Scientific) :
    ∀ character ∈ decimal.digits, character.isDigit :=
  Numeral.naturalText_digits decimal.coefficient

/-- The digits make the coefficient. -/
theorem digits_value (decimal : Scientific) :
    Nat.ofDigitChars 10 decimal.digits 0 = decimal.coefficient :=
  Numeral.naturalText_value decimal.coefficient

/-- There is a digit. -/
theorem digits_length_pos (decimal : Scientific) : 0 < decimal.digits.length :=
  List.length_pos_iff.mpr (Numeral.naturalText_nonempty decimal.coefficient)

/-- The coefficient has as many digits as are written. -/
theorem coefficient_lt_power (decimal : Scientific) :
    decimal.coefficient < 10 ^ decimal.digits.length :=
  (Numeral.length_naturalText_le_iff decimal.digits_length_pos).mp le_rfl

/-- A coefficient of several digits is no smaller than a power of ten with as many. -/
theorem power_le_coefficient (nonzero : decimal.coefficient ≠ 0) :
    10 ^ (decimal.digits.length - 1) ≤ decimal.coefficient := by
  by_contra less
  have fewer := Nat.lt_of_not_le less
  rcases Nat.eq_zero_or_pos (decimal.digits.length - 1) with single | several
  · rw [single, Nat.pow_zero] at fewer
    omega
  · have short := (Numeral.length_naturalText_le_iff several).mpr fewer
    rw [digits] at several short
    omega

/-- A decimal without a positive exponent is its coefficient over a power of ten. -/
theorem value_of_nonpos (nonpos : decimal.exponent ≤ 0) :
    decimal.value = decimal.coefficient / 10 ^ decimal.exponent.natAbs := by
  have sign : decimal.exponent = -(decimal.exponent.natAbs : Int) := by omega
  rw [value, sign, zpow_neg, zpow_natCast, div_eq_mul_inv, Int.natAbs_neg, Int.natAbs_natCast]

/-- A decimal without a negative exponent is a natural number. -/
theorem value_of_nonneg (nonneg : 0 ≤ decimal.exponent) :
    decimal.value = (decimal.coefficient * 10 ^ decimal.exponent.natAbs : Nat) := by
  have sign : decimal.exponent = (decimal.exponent.natAbs : Int) := by omega
  rw [value, sign, zpow_natCast, Int.natAbs_natCast]
  push_cast
  rfl

/-- The value is below the power of ten at the point. -/
theorem value_lt_power (decimal : Scientific) : decimal.value < 10 ^ decimal.point := by
  rw [value, point, add_comm, zpow_add₀ (by norm_num), zpow_natCast]
  exact mul_lt_mul_of_pos_right (by exact_mod_cast decimal.coefficient_lt_power) (by positivity)

/-- A decimal is written as digits around a point, which make its value. -/
structure IsPointed (decimal : Scientific) (whole fraction : List Char) : Prop where
  text : decimal.text = whole ++ '.' :: fraction
  nonempty : whole ≠ []
  places : fraction ≠ []
  areDigits : ∀ character ∈ whole ++ fraction, character.isDigit
  leading : ¬(whole.head? = some '0' ∧ whole.length ≠ 1)
  value : (Nat.ofDigitChars 10 (whole ++ fraction) 0 : ℚ) / 10 ^ fraction.length = decimal.value

/-- Zeros are digits. -/
theorem areDigits_zeros (count : Nat) :
    ∀ character ∈ List.replicate count '0', character.isDigit := by
  intro character member
  rw [(List.mem_replicate.mp member).2]
  decide

section Pointed

variable (nonzero : decimal.coefficient ≠ 0)

include nonzero

/-- The digits of a decimal that is not zero do not begin with zero. -/
theorem digits_leading : decimal.digits.head? ≠ some '0' :=
  Numeral.naturalText_leading decimal.coefficient (Nat.pos_of_ne_zero nonzero)

omit nonzero in
/-- Behind the point, zeros stand in front of the digits of a small decimal. -/
theorem pointed_of_small (above : -4 ≤ decimal.point) (below : decimal.point ≤ 0) :
    decimal.IsPointed ['0'] (List.replicate decimal.point.natAbs '0' ++ decimal.digits) := by
  have position : decimal.point = decimal.exponent + decimal.digits.length := rfl
  have some := decimal.digits_length_pos
  have length : (List.replicate decimal.point.natAbs '0' ++ decimal.digits).length =
      decimal.exponent.natAbs := by
    rw [List.length_append, List.length_replicate]
    omega
  have digits : Nat.ofDigitChars 10
      (['0'] ++ (List.replicate decimal.point.natAbs '0' ++ decimal.digits)) 0 =
        decimal.coefficient := by
    rw [Nat.ofDigitChars_append, Nat.ofDigitChars_append, Nat.ofDigitChars_replicate_zero]
    exact decimal.digits_value
  constructor
  case text => exact text_of_small above below
  case nonempty => exact List.cons_ne_nil _ _
  case places => exact List.append_ne_nil_of_right_ne_nil _ (List.length_pos_iff.mp some)
  case areDigits =>
    simp only [List.forall_mem_append]
    exact ⟨areDigits_zeros 1, areDigits_zeros _, decimal.digits_areDigits⟩
  case leading => exact fun zero => zero.2 rfl
  case value => rw [digits, length, value_of_nonpos (by omega)]

/-- The point stands between the digits of a decimal of middle size. -/
theorem pointed_of_middle (above : 0 < decimal.point)
    (within : decimal.point.natAbs < decimal.digits.length) (near : decimal.point ≤ 16) :
    decimal.IsPointed (decimal.digits.take decimal.point.natAbs)
      (decimal.digits.drop decimal.point.natAbs) := by
  have position : decimal.point = decimal.exponent + decimal.digits.length := rfl
  have length : (decimal.digits.drop decimal.point.natAbs).length = decimal.exponent.natAbs := by
    rw [List.length_drop]
    omega
  have joined := List.take_append_drop decimal.point.natAbs decimal.digits
  have digits : Nat.ofDigitChars 10 (decimal.digits.take decimal.point.natAbs ++
      decimal.digits.drop decimal.point.natAbs) 0 = decimal.coefficient := by
    rw [joined]
    exact decimal.digits_value
  constructor
  case text => exact text_of_middle above within near
  case nonempty =>
    rw [← List.length_pos_iff, List.length_take]
    omega
  case places =>
    rw [← List.length_pos_iff, length]
    omega
  case areDigits =>
    rw [joined]
    exact decimal.digits_areDigits
  case leading =>
    rw [List.head?_take, if_neg (by omega)]
    exact fun zero => digits_leading nonzero zero.1
  case value => rw [digits, length, value_of_nonpos (by omega)]

/-- Zeros stand behind the digits of a large decimal, with one more behind the point. -/
theorem pointed_of_large (above : 0 < decimal.point)
    (beyond : decimal.digits.length ≤ decimal.point.natAbs) (near : decimal.point ≤ 16) :
    decimal.IsPointed (decimal.digits ++
      List.replicate (decimal.point.natAbs - decimal.digits.length) '0') ['0'] := by
  have position : decimal.point = decimal.exponent + decimal.digits.length := rfl
  have some := decimal.digits_length_pos
  have zeros : decimal.point.natAbs - decimal.digits.length = decimal.exponent.natAbs := by omega
  have digits : Nat.ofDigitChars 10 ((decimal.digits ++
      List.replicate (decimal.point.natAbs - decimal.digits.length) '0') ++ ['0']) 0 =
        decimal.coefficient * 10 ^ (decimal.exponent.natAbs + 1) := by
    rw [zeros, List.append_assoc, ← List.replicate_succ', Nat.ofDigitChars_append,
      decimal.digits_value, Nat.ofDigitChars_replicate_zero, Nat.mul_comm]
  constructor
  case text => exact text_of_large above beyond near
  case nonempty => exact List.append_ne_nil_of_left_ne_nil (List.length_pos_iff.mp some) _
  case places => exact List.cons_ne_nil _ _
  case areDigits =>
    simp only [List.forall_mem_append]
    exact ⟨⟨decimal.digits_areDigits, areDigits_zeros _⟩, areDigits_zeros 1⟩
  case leading =>
    rw [List.head?_append_of_ne_nil _ (List.length_pos_iff.mp some)]
    exact fun zero => digits_leading nonzero zero.1
  case value =>
    rw [digits, value_of_nonneg (by omega), pow_succ, ← mul_assoc, Nat.cast_mul _ 10,
      List.length_singleton, pow_one, Nat.cast_ofNat, mul_div_cancel_right₀ _ (by norm_num)]

/-- A decimal whose point is near its digits is written around it. -/
theorem exists_pointed (above : -4 ≤ decimal.point) (near : decimal.point ≤ 16) :
    ∃ whole fraction, decimal.IsPointed whole fraction := by
  rcases le_or_gt decimal.point 0 with small | front
  · exact ⟨_, _, pointed_of_small above small⟩
  · rcases lt_or_ge decimal.point.natAbs decimal.digits.length with within | beyond
    · exact ⟨_, _, pointed_of_middle nonzero front within near⟩
    · exact ⟨_, _, pointed_of_large nonzero front beyond near⟩

end Pointed

end Digits

end ExchangeWallet.Scientific
