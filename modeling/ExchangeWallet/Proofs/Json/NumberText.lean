import ExchangeWallet.Proofs.Binary64.Digits
import ExchangeWallet.Proofs.Decimal.Scientific
import ExchangeWallet.Proofs.Decimal.Spelled
/-!
# The texts of numbers

A text is a number in one way only: the sign, the digits in front of the point, the fraction and
the exponent are told apart by their characters. Every number that is printed has such a text,
which denotes it. A floating number is printed as its shortest decimal, near the point with a
fraction and elsewhere with an exponent.
-/
namespace ExchangeWallet.Json

section Unique

/-- Different signs have different texts. -/
theorem ExponentSign.text_injective {first second : ExponentSign}
    (same : first.text = second.text) : first = second := by
  cases first <;> cases second <;> simp_all [ExponentSign.text]

/-- The parts of an exponent can be told apart. -/
theorem Exponent.text_injective {first second : Exponent} (same : first.text = second.text) :
    first = second := by
  have begins (exponent : Exponent) :
      ∀ character ∈ exponent.digits.head?, (!character.isDigit) = false := by
    intro character leading
    rw [exponent.areDigits character (List.mem_of_mem_head? leading)]
    rfl
  have signs (sign : ExponentSign) : ∀ character ∈ sign.text, (!character.isDigit) = true := by
    cases sign <;> simp [ExponentSign.text]
  obtain ⟨mark, behind⟩ := List.cons.inj same
  obtain ⟨sign, digits⟩ := Text.run_unique (signs first.sign) (begins first) (signs second.sign)
    (begins second) behind
  have capital : first.capital = second.capital := by
    revert mark
    cases first.capital <;> cases second.capital <;> simp
  have sameSign := ExponentSign.text_injective sign
  cases first
  cases second
  simp_all

namespace Literal

/-- The text of the fraction with its point, if there is one. -/
def fractionText (literal : Literal) : List Char :=
  if literal.fraction = [] then [] else '.' :: literal.fraction

/-- An exponent begins with its mark. -/
theorem exponentText_opening (literal : Literal) :
    ∀ character ∈ literal.exponentText.head?, character = 'e' ∨ character = 'E' := by
  intro character leading
  rw [exponentText] at leading
  cases written : literal.exponent with
  | none =>
    rw [written] at leading
    cases leading
  | some exponent =>
    rw [written] at leading
    obtain rfl := Option.some.inj leading
    cases exponent.capital
    · exact .inl rfl
    · exact .inr rfl

/-- What stands behind the digits in front of the point begins with the point or with a mark. -/
theorem behindWhole_opening (literal : Literal) :
    ∀ character ∈ literal.behindWhole.head?,
      character = '.' ∨ character = 'e' ∨ character = 'E' := by
  intro character leading
  rw [behindWhole] at leading
  split at leading
  · exact .inr (literal.exponentText_opening character leading)
  · exact .inl (Option.some.inj leading).symm

/-- The text behind the digits in front of the point has one fraction and one exponent. -/
theorem behindWhole_injective {first second : Literal}
    (same : first.behindWhole = second.behindWhole) :
    first.fraction = second.fraction ∧ first.exponent = second.exponent := by
  let inClass (character : Char) : Bool := character.isDigit || character == '.'
  have inside (literal : Literal) : ∀ character ∈ literal.fractionText, inClass character := by
    intro character member
    rw [fractionText] at member
    split at member
    · cases member
    · rcases List.mem_cons.mp member with rfl | digit
      · rfl
      · simp [inClass, literal.fractionDigits character digit]
  have ends (literal : Literal) :
      ∀ character ∈ literal.exponentText.head?, inClass character = false := by
    intro character leading
    rcases literal.exponentText_opening character leading with rfl | rfl <;> rfl
  obtain ⟨fraction, exponent⟩ := Text.run_unique (inside first) (ends first) (inside second)
    (ends second) same
  constructor
  · rw [fractionText, fractionText] at fraction
    split at fraction <;> split at fraction <;> simp_all
  · rw [exponentText, exponentText] at exponent
    cases written : first.exponent with
    | none =>
      cases otherWritten : second.exponent with
      | none => rfl
      | some other => simp [written, otherWritten, Exponent.text] at exponent
    | some raise =>
      cases otherWritten : second.exponent with
      | none => simp [written, otherWritten, Exponent.text] at exponent
      | some other =>
        rw [written, otherWritten] at exponent
        exact congrArg some (Exponent.text_injective exponent)

/-- The parts of a number can be told apart. -/
theorem text_injective {first second : Literal} (same : first.text = second.text) :
    first = second := by
  have signs (literal : Literal) :
      ∀ character ∈ if literal.negative then ['-'] else [], (character == '-') = true := by
    split <;> simp
  have unsigned (literal : Literal) :
      ∀ character ∈ (literal.whole ++ literal.behindWhole).head?, (character == '-') = false := by
    intro character leading
    rw [List.head?_append_of_ne_nil _ literal.nonempty] at leading
    rw [beq_eq_false_iff_ne]
    exact Numeral.ne_of_isDigit
      (literal.wholeDigits character (List.mem_of_mem_head? leading)) rfl
  have ends (literal : Literal) :
      ∀ character ∈ literal.behindWhole.head?, character.isDigit = false := by
    intro character leading
    rcases literal.behindWhole_opening character leading with rfl | rfl | rfl <;> rfl
  obtain ⟨sign, behindSign⟩ := Text.run_unique (signs first) (unsigned first) (signs second)
    (unsigned second) same
  obtain ⟨whole, behindWhole⟩ := Text.run_unique first.wholeDigits (ends first)
    second.wholeDigits (ends second) behindSign
  obtain ⟨fraction, exponent⟩ := behindWhole_injective behindWhole
  have negative : first.negative = second.negative := by
    revert sign
    cases first.negative <;> cases second.negative <;> simp
  cases first
  cases second
  simp_all

end Literal

end Unique

section Printed

/-- Digits without point and exponent. -/
def Literal.ofNatural (negative : Bool) (number : Nat) : Literal where
  negative := negative
  whole := Numeral.naturalText number
  fraction := []
  exponent := none
  nonempty := Numeral.naturalText_nonempty number
  areDigits := by
    rw [List.append_nil]
    exact Numeral.naturalText_digits number
  leading := Numeral.naturalText_leading_zero number

/-- Digits without point and exponent are their number. -/
theorem Literal.value_ofNatural (negative : Bool) (number : Nat) :
    (ofNatural negative number).value = (if negative then -1 else 1) * number := by
  have digits : (ofNatural negative number).coefficient = number := by
    rw [coefficient]
    change Nat.ofDigitChars 10 (Numeral.naturalText number ++ []) 0 = number
    rw [List.append_nil, Numeral.naturalText_value]
  have plain : (ofNatural negative number).IsPlain := ⟨rfl, rfl⟩
  rw [plain.value_eq, digits]
  rfl

/-- Zero with one digit behind the point. -/
def Literal.ofZero (negative : Bool) : Literal where
  negative := negative
  whole := ['0']
  fraction := ['0']
  exponent := none
  nonempty := List.cons_ne_nil _ _
  areDigits := List.forall_mem_cons.mpr ⟨rfl, List.forall_mem_singleton.mpr rfl⟩
  leading := fun zero => zero.2 rfl

/-- Zero of either sign is written with a point. -/
theorem Literal.text_ofZero (negative : Bool) :
    (ofZero negative).text = Decimal.signed negative "0.0".toList := by
  cases negative <;> rfl

/-- Zero of either sign is zero. -/
theorem Literal.value_ofZero (negative : Bool) : (ofZero negative).value = 0 := by
  have digits : (ofZero negative).coefficient = 0 := rfl
  rw [value, digits]
  simp

/-- A text is a number that denotes a value, written as numbers are printed. -/
structure Literal.Prints (literal : Literal) (text : List Char) (value : ℚ) : Prop where
  text : literal.text = text
  value : literal.value = value
  normalized : literal.IsNormalized

/-- A number without an exponent is normalized if it is not large. -/
theorem Literal.isNormalized_of_plain {literal : Literal} (plain : literal.exponent = none)
    (small : |literal.value| ≤ 2 ^ 64) : literal.IsNormalized :=
  ⟨fun _ => small, absurd plain, absurd plain⟩

/-- The text of a word is a number that denotes it. -/
theorem exists_literal_integer (value : Int) (inRange : -(2 ^ 63) ≤ value ∧ value < 2 ^ 64) :
    ∃ literal : Literal, literal.Prints (Numeral.integerText value) value := by
  have small : |(value : ℚ)| ≤ 2 ^ 64 := by
    have bound : |value| ≤ 2 ^ 64 := abs_le.mpr ⟨by omega, by omega⟩
    exact_mod_cast bound
  cases value with
  | ofNat number =>
    have same : (Literal.ofNatural false number).value = (Int.ofNat number : Int) := by
      rw [Literal.value_ofNatural]
      simp
    exact ⟨_, List.append_nil _, same, Literal.isNormalized_of_plain rfl (same ▸ small)⟩
  | negSucc number =>
    have same : (Literal.ofNatural true (number + 1)).value = (Int.negSucc number : Int) := by
      rw [Literal.value_ofNatural]
      simp
    exact ⟨_, congrArg _ (List.append_nil _), same,
      Literal.isNormalized_of_plain rfl (same ▸ small)⟩

/-- The text of zero, of either sign, is a number that denotes it. -/
theorem exists_literal_zero (negative : Bool) :
    ∃ literal : Literal, literal.Prints (Decimal.signed negative "0.0".toList) 0 := by
  have value := Literal.value_ofZero negative
  exact ⟨_, Literal.text_ofZero negative, value,
    Literal.isNormalized_of_plain rfl (by rw [value]; norm_num)⟩

variable {decimal : Scientific}

/-- Behind a sign, a value keeps its size. -/
theorem abs_behind_sign (negative : Bool) (decimal : Scientific) :
    |(if negative then -1 else 1) * decimal.value| = decimal.value := by
  have positive : 0 ≤ decimal.value := by
    rw [Scientific.value]
    positivity
  rw [abs_mul, abs_of_nonneg positive]
  cases negative <;> simp

/-- The text of a decimal with a point near its digits is a number that denotes it. -/
theorem exists_literal_pointed {whole fraction : List Char}
    (pointed : decimal.IsPointed whole fraction) (near : decimal.point ≤ 16) (negative : Bool) :
    ∃ literal : Literal, literal.Prints (Decimal.signed negative decimal.text)
      ((if negative then -1 else 1) * decimal.value) := by
  let literal : Literal := ⟨negative, whole, fraction, none, pointed.nonempty, pointed.areDigits,
    pointed.leading⟩
  have value : literal.value = (if negative then -1 else 1) * decimal.value := by
    change (if negative then -1 else 1) * ((Nat.ofDigitChars 10 (whole ++ fraction) 0 : ℚ) *
      10 ^ ((0 : Int) - fraction.length)) = _
    rw [zero_sub, zpow_neg, zpow_natCast, ← div_eq_mul_inv, pointed.value]
  have small : |literal.value| ≤ 2 ^ 64 := by
    have power : (10 : ℚ) ^ decimal.point ≤ 10 ^ (16 : Int) :=
      zpow_le_zpow_right₀ (by norm_num) near
    have below := decimal.value_lt_power
    rw [value, abs_behind_sign]
    norm_num at power ⊢
    linarith
  refine ⟨literal, ?_, value, Literal.isNormalized_of_plain rfl small⟩
  change (if negative then ['-'] else []) ++
    (whole ++ ((if fraction = [] then [] else '.' :: fraction) ++ [])) = _
  rw [if_neg pointed.places, List.append_nil, ← pointed.text]
  cases negative <;> rfl

/-- A power of ten, written as an exponent with its sign. -/
def Exponent.ofPower (power : Int) : Exponent where
  capital := false
  sign := if power < 0 then .minus else .plus
  digits := Numeral.naturalText power.natAbs
  nonempty := Numeral.naturalText_nonempty power.natAbs
  areDigits := Numeral.naturalText_digits power.natAbs

/-- The exponent of a power of ten means it. -/
theorem Exponent.value_ofPower (power : Int) : (ofPower power).value = power := by
  have size : (ofPower power).size = power.natAbs := Numeral.naturalText_value power.natAbs
  rw [value, lowers, size, ofPower]
  by_cases negative : power < 0
  · rw [if_pos negative]
    change -(power.natAbs : Int) = power
    omega
  · rw [if_neg negative]
    change (power.natAbs : Int) = power
    omega

/-- The first digit of a coefficient and the others behind a point make a number of one digit in
front of its point. -/
theorem base_bounds (nonzero : decimal.coefficient ≠ 0) :
    1 ≤ (decimal.coefficient : ℚ) / 10 ^ (decimal.digits.length - 1) ∧
      (decimal.coefficient : ℚ) / 10 ^ (decimal.digits.length - 1) < 10 := by
  have nonempty := decimal.digits_length_pos
  have above := Scientific.power_le_coefficient nonzero
  have below := decimal.coefficient_lt_power
  rw [← Nat.sub_add_cancel nonempty, pow_succ'] at below
  rw [le_div_iff₀ (by positivity), one_mul, div_lt_iff₀ (by positivity)]
  exact ⟨by exact_mod_cast above, by exact_mod_cast below⟩

/-- The text of a decimal with an exponent is a number that denotes it. -/
theorem exists_literal_distant (nonzero : decimal.coefficient ≠ 0)
    (few : decimal.coefficient < 2 ^ 96) (distant : decimal.point < -4 ∨ 16 < decimal.point)
    (negative : Bool) :
    ∃ literal : Literal, literal.Prints (Decimal.signed negative decimal.text)
      ((if negative then -1 else 1) * decimal.value) := by
  have nonempty := decimal.digits_length_pos
  have joined := List.take_append_drop 1 decimal.digits
  have single : (decimal.digits.take 1).length = 1 := by
    rw [List.length_take]
    omega
  refine ⟨⟨negative, decimal.digits.take 1, decimal.digits.drop 1,
    some (.ofPower (decimal.point - 1)), ?_, ?_, fun zero => zero.2 single⟩, ?_, ?_,
    nofun, fun _ => ?_, fun _ => ?_⟩
  · rw [← List.length_pos_iff, single]
    decide
  · rw [joined]
    exact decimal.digits_areDigits
  · have exponent : (Exponent.ofPower (decimal.point - 1)).text =
        'e' :: (if decimal.point - 1 < 0 then '-' else '+') ::
          Numeral.naturalText (decimal.point - 1).natAbs := by
      rw [Exponent.text, Exponent.ofPower]
      split <;> rfl
    change (if negative then ['-'] else []) ++ (decimal.digits.take 1 ++
      ((if decimal.digits.drop 1 = [] then [] else '.' :: decimal.digits.drop 1) ++
        (Exponent.ofPower (decimal.point - 1)).text)) = _
    rw [Scientific.text_of_distant distant, Scientific.base, exponent, List.append_assoc]
    cases negative <;> rfl
  · change (if negative then -1 else 1) *
      ((Nat.ofDigitChars 10 (decimal.digits.take 1 ++ decimal.digits.drop 1) 0 : ℚ) *
        10 ^ ((Exponent.ofPower (decimal.point - 1)).value - (decimal.digits.drop 1).length)) = _
    have power : decimal.point - 1 - ((decimal.digits.drop 1).length : Int) = decimal.exponent := by
      rw [List.length_drop, Scientific.point]
      omega
    rw [joined, decimal.digits_value, Exponent.value_ofPower, power]
    rfl
  · rw [Literal.abs_value]
    change 1 ≤ (Nat.ofDigitChars 10 (decimal.digits.take 1 ++ decimal.digits.drop 1) 0 : ℚ) *
        10 ^ ((0 : Int) - (decimal.digits.drop 1).length) ∧
      (Nat.ofDigitChars 10 (decimal.digits.take 1 ++ decimal.digits.drop 1) 0 : ℚ) *
        10 ^ ((0 : Int) - (decimal.digits.drop 1).length) < 10
    rw [joined, decimal.digits_value, List.length_drop, zero_sub, zpow_neg, zpow_natCast,
      ← div_eq_mul_inv]
    exact base_bounds nonzero
  · change Nat.ofDigitChars 10 (decimal.digits.take 1 ++ decimal.digits.drop 1) 0 < 2 ^ 96
    rw [joined, decimal.digits_value]
    exact few

/-- The text of a decimal of few digits that is not zero is a number that denotes it. -/
theorem exists_literal_decimal (nonzero : decimal.coefficient ≠ 0)
    (few : decimal.coefficient < 2 ^ 96) (negative : Bool) :
    ∃ literal : Literal, literal.Prints (Decimal.signed negative decimal.text)
      ((if negative then -1 else 1) * decimal.value) := by
  by_cases near : -4 ≤ decimal.point ∧ decimal.point ≤ 16
  · obtain ⟨whole, fraction, pointed⟩ := Scientific.exists_pointed nonzero near.1 near.2
    exact exists_literal_pointed pointed near.2 negative
  · exact exists_literal_distant nonzero few (by omega) negative

/-- The value that a number is printed as: of a floating number, the shortest decimal. -/
def Number.printed : Number → ℚ
  | .whole value _ => value
  | .real value =>
    if value.units = 0 then 0 else (if value.negative then -1 else 1) * value.shortest.value

/-- The text of a number is one that denotes what it is printed as. -/
theorem Number.exists_literal (number : Number) :
    ∃ literal : Literal, literal.Prints number.text number.printed := by
  cases number with
  | whole value inRange => exact exists_literal_integer value inRange
  | real value =>
    rw [Number.text, Number.printed, Binary64.text]
    by_cases zero : value.units = 0
    · rw [if_pos zero, if_pos zero]
      exact exists_literal_zero value.negative
    · rw [if_neg zero, if_neg zero]
      exact exists_literal_decimal (Binary64.shortest_ne_zero zero)
        ((Binary64.shortest_covers zero).2.trans_lt (by decide)) value.negative

end Printed

end ExchangeWallet.Json
