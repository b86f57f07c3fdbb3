import ExchangeWallet.Instruction
import ExchangeWallet.Proofs.Decimal.Reading
import ExchangeWallet.Record.Slot
/-!
# Canonical amounts

An amount is written in its normal form, and equal amounts have one normal form. So an
amount has one text: a sign where it is negative, digits without a zero in front, and a
fraction that does not end in zero or is left out. The text denotes the amount, and it is
read back to the normal form with its very places.
-/
namespace ExchangeWallet

namespace Decimal

/-- The normal form: there is no zero at the end of a fraction and no sign on zero. -/
structure IsNormal (decimal : Decimal) : Prop where
  trimmed : decimal.scale = 0 ∨ decimal.coefficient % 10 ≠ 0
  signed : decimal.negative = true → decimal.coefficient ≠ 0

/-- Zeros are dropped until there are no places left or the last digit is not zero. -/
theorem trimZeros_trimmed (coefficient scale : Nat) :
    (trimZeros coefficient scale).2 = 0 ∨ (trimZeros coefficient scale).1 % 10 ≠ 0 := by
  induction scale generalizing coefficient with
  | zero => exact .inl rfl
  | succ scale inductionHypothesis =>
    rw [trimZeros]
    split
    · exact inductionHypothesis (coefficient / 10)
    · next indivisible => exact .inr indivisible

/-- Dropping zeros leaves only zero at zero. -/
theorem trimZeros_ne_zero {coefficient : Nat} (nonzero : coefficient ≠ 0) (scale : Nat) :
    (trimZeros coefficient scale).1 ≠ 0 := by
  induction scale generalizing coefficient with
  | zero => exact nonzero
  | succ scale inductionHypothesis =>
    rw [trimZeros]
    split
    · next divisible => exact inductionHypothesis (by omega)
    · exact nonzero

/-- Normalizing makes a normal form. -/
theorem normalize_isNormal (decimal : Decimal) : decimal.normalize.IsNormal where
  trimmed := trimZeros_trimmed decimal.coefficient decimal.scale
  signed := by
    intro negative
    have parts : (decimal.negative && decimal.coefficient != 0) = true := negative
    have nonzero : decimal.coefficient ≠ 0 := by
      simpa using (Bool.and_eq_true_iff.mp parts).2
    exact trimZeros_ne_zero nonzero decimal.scale

/-- The coefficient with the sign of the decimal. -/
def signedCoefficient (decimal : Decimal) : Int :=
  if decimal.negative then -decimal.coefficient else decimal.coefficient

/-- A decimal is its signed coefficient over its power of ten. -/
theorem value_eq (decimal : Decimal) :
    decimal.value = decimal.signedCoefficient / 10 ^ decimal.scale := by
  rw [value, signedCoefficient]
  cases decimal.negative <;> simp [neg_div]

/-- The sign does not change the size of a coefficient. -/
theorem natAbs_signedCoefficient (decimal : Decimal) :
    decimal.signedCoefficient.natAbs = decimal.coefficient := by
  rw [signedCoefficient]
  split
  · rw [Int.natAbs_neg, Int.natAbs_natCast]
  · exact Int.natAbs_natCast _

/-- Equal amounts have equal coefficients, once both are counted in both places. -/
theorem signedCoefficient_mul {first second : Decimal} (same : first.value = second.value) :
    first.signedCoefficient * 10 ^ second.scale = second.signedCoefficient * 10 ^ first.scale := by
  rw [value_eq, value_eq, div_eq_div_iff (by positivity) (by positivity)] at same
  exact_mod_cast same

/-- In normal form an amount has no more places than it has in any other: its coefficient
would end in zero. -/
theorem IsNormal.scale_le {first second : Decimal} (normal : second.IsNormal)
    (same : first.value = second.value) : second.scale ≤ first.scale := by
  by_contra more
  obtain ⟨excess, places⟩ : ∃ excess, second.scale = first.scale + (excess + 1) :=
    ⟨second.scale - first.scale - 1, by omega⟩
  have scaled := signedCoefficient_mul same
  have power : (10 : Int) ^ first.scale ≠ 0 := pow_ne_zero _ (by decide)
  rw [places, pow_add, mul_comm (10 ^ first.scale), ← mul_assoc] at scaled
  have larger : first.coefficient * 10 ^ (excess + 1) = second.coefficient := by
    have sizes := congrArg Int.natAbs (mul_right_cancel₀ power scaled)
    rwa [Int.natAbs_mul, Int.natAbs_pow, natAbs_signedCoefficient, natAbs_signedCoefficient] at sizes
  have trimmed := normal.trimmed
  rw [← larger, pow_succ, ← mul_assoc, Nat.mul_mod_left] at trimmed
  omega

/-- Equal amounts have one normal form. -/
theorem IsNormal.eq_of_value_eq {first second : Decimal} (normal : first.IsNormal)
    (otherNormal : second.IsNormal) (same : first.value = second.value) : first = second := by
  have scales : first.scale = second.scale :=
    Nat.le_antisymm (normal.scale_le same.symm) (otherNormal.scale_le same)
  have power : (10 : Int) ^ second.scale ≠ 0 := pow_ne_zero _ (by decide)
  have signed : first.signedCoefficient = second.signedCoefficient := by
    have scaled := signedCoefficient_mul same
    rw [scales] at scaled
    exact mul_right_cancel₀ power scaled
  have coefficients : first.coefficient = second.coefficient := by
    rw [← natAbs_signedCoefficient, signed, natAbs_signedCoefficient]
  have signs : first.negative = second.negative := by
    rw [signedCoefficient, signedCoefficient] at signed
    cases negative : first.negative with
    | true =>
      have nonzero := normal.signed negative
      cases otherNegative : second.negative with
      | true => rfl
      | false =>
        simp only [negative, otherNegative, if_true, Bool.false_eq_true, if_false] at signed
        omega
    | false =>
      cases otherNegative : second.negative with
      | true =>
        have nonzero := otherNormal.signed otherNegative
        simp only [negative, otherNegative, if_true, Bool.false_eq_true, if_false] at signed
        omega
      | false => rfl
  cases first
  cases second
  congr

end Decimal

section Pattern

open RegularExpression

/-- One character of some. -/
def oneOf (characters : List Char) : RegularExpression Char :=
  (characters.map char).sum

/-- The digits. -/
def digit : RegularExpression Char :=
  oneOf "0123456789".toList

/-- The digits but zero. -/
def nonzeroDigit : RegularExpression Char :=
  oneOf "123456789".toList

/-- What stands in front of the point: zero, or digits that begin with another one. -/
def wholePattern : RegularExpression Char :=
  char '0' + nonzeroDigit * digit.star

/-- What stands behind the point: digits that do not end in zero. -/
def fractionPattern : RegularExpression Char :=
  digit.star * nonzeroDigit

/-- The canonical texts of amounts, `-?(0|[1-9][0-9]*)(\.[0-9]*[1-9])?`. -/
def amountPattern : RegularExpression Char :=
  (1 + char '-') * (wholePattern * (1 + char '.' * fractionPattern))

/-- A character matches where it is one of some. -/
theorem mem_oneOf {characters : List Char} {character : Char} (member : character ∈ characters) :
    [character] ∈ (oneOf characters).matches' := by
  induction characters with
  | nil => cases member
  | cons first others inductionHypothesis =>
    rcases List.mem_cons.mp member with rfl | later
    · exact .inl rfl
    · exact .inr (inductionHypothesis later)

/-- A digit is one of ten. -/
theorem mem_digits {character : Char} (isDigit : character.isDigit) :
    character ∈ "0123456789".toList := by
  have listed : ∀ value : Fin 10, Char.ofNat ('0'.toNat + value) ∈ "0123456789".toList := by decide
  obtain ⟨low, high⟩ := Char.isDigit_iff_toNat.mp isDigit
  have found := listed ⟨character.toNat - '0'.toNat, by
    have : '9'.toNat = '0'.toNat + 9 := rfl
    omega⟩
  rwa [Nat.add_sub_cancel' low, Char.ofNat_toNat] at found

/-- A digit that is not zero is one of nine. -/
theorem mem_nonzeroDigits {character : Char} (isDigit : character.isDigit)
    (nonzero : character ≠ '0') : character ∈ "123456789".toList := by
  have member : character ∈ '0' :: "123456789".toList := mem_digits isDigit
  exact (List.mem_cons.mp member).resolve_left nonzero

/-- Any digits match in a row. -/
theorem digits_match {text : List Char} (areDigits : ∀ character ∈ text, character.isDigit) :
    text ∈ digit.star.matches' := by
  have pieces : (text.map fun character => [character]).flatten = text := by
    induction text with
    | nil => rfl
    | cons first rest inductionHypothesis =>
      rw [List.map_cons, List.flatten_cons,
        inductionHypothesis fun character member => areDigits character (by simp [member])]
      rfl
  rw [matches'_star, Language.mem_kstar]
  refine ⟨text.map fun character => [character], pieces.symm, ?_⟩
  intro piece member
  obtain ⟨character, present, rfl⟩ := List.mem_map.mp member
  exact mem_oneOf (mem_digits (areDigits character present))

/-- Digits that begin with another one than zero match in front of the point. -/
theorem whole_matches {first : Char} {rest : List Char}
    (areDigits : ∀ character ∈ first :: rest, character.isDigit) (nonzero : first ≠ '0') :
    first :: rest ∈ wholePattern.matches' := by
  have opening := mem_oneOf (mem_nonzeroDigits (areDigits first (by simp)) nonzero)
  have behind : rest ∈ digit.star.matches' :=
    digits_match fun character member => areDigits character (List.mem_cons_of_mem _ member)
  exact .inr (Language.append_mem_mul opening behind)

/-- Digits that end with another one than zero match behind the point. -/
theorem fraction_matches {front : List Char} {last : Char}
    (areDigits : ∀ character ∈ front ++ [last], character.isDigit) (nonzero : last ≠ '0') :
    front ++ [last] ∈ fractionPattern.matches' := by
  have ending := mem_oneOf (mem_nonzeroDigits (areDigits last (by simp)) nonzero)
  have before : front ∈ digit.star.matches' :=
    digits_match fun character member => areDigits character (List.mem_append_left _ member)
  exact Language.append_mem_mul before ending

end Pattern

namespace Decimal

/-- The digits in front of the point match: either the coefficient has more digits than there
are places, and begins with another one than zero, or a single zero is put in front. -/
theorem whole_canonical (decimal : Decimal) :
    decimal.digits.take (decimal.digits.length - decimal.scale) ∈ wholePattern.matches' := by
  have areDigits := decimal.digits_areDigits
  by_cases shorter : (Numeral.naturalText decimal.coefficient).length ≤ decimal.scale
  · obtain ⟨zeros, filled⟩ : ∃ zeros,
        decimal.scale + 1 - (Numeral.naturalText decimal.coefficient).length = zeros + 1 :=
      ⟨decimal.scale - (Numeral.naturalText decimal.coefficient).length, by omega⟩
    have written : decimal.digits =
        '0' :: (List.replicate zeros '0' ++ Numeral.naturalText decimal.coefficient) := by
      rw [digits, filled, List.replicate_succ, List.cons_append]
    have places : decimal.digits.length - decimal.scale = 1 := by
      simp only [digits, List.length_append, List.length_replicate]
      omega
    rw [places, written]
    exact .inl rfl
  · have written : decimal.digits = Numeral.naturalText decimal.coefficient := by
      rw [digits, Nat.sub_eq_zero_of_le (by omega)]
      rfl
    rw [written] at areDigits ⊢
    rcases Nat.eq_zero_or_pos decimal.coefficient with zero | positive
    · rw [zero] at shorter ⊢
      have places : decimal.scale = 0 := by
        have single : (Numeral.naturalText 0).length = 1 := by decide
        omega
      rw [places]
      exact .inl rfl
    · have leading := Numeral.naturalText_leading decimal.coefficient positive
      obtain ⟨count, taken⟩ : ∃ count,
          (Numeral.naturalText decimal.coefficient).length - decimal.scale = count + 1 :=
        ⟨(Numeral.naturalText decimal.coefficient).length - decimal.scale - 1, by omega⟩
      rw [taken]
      cases opening : Numeral.naturalText decimal.coefficient with
      | nil => exact absurd opening (Numeral.naturalText_nonempty _)
      | cons first rest =>
        rw [opening] at areDigits leading
        refine whole_matches ?_ (by simpa using leading)
        intro character member
        exact areDigits character (List.mem_of_mem_take (i := count + 1) member)

/-- The digits behind the point of a normal form match, for the last one is that of the
coefficient. -/
theorem IsNormal.fraction_canonical {decimal : Decimal} (normal : decimal.IsNormal)
    (places : decimal.scale ≠ 0) :
    decimal.digits.drop (decimal.digits.length - decimal.scale) ∈ fractionPattern.matches' := by
  obtain ⟨front, written⟩ := Numeral.naturalText_last decimal.coefficient
  have nonzero : Nat.digitChar (decimal.coefficient % 10) ≠ '0' := by
    have differs : ∀ value < 10, value ≠ 0 → Nat.digitChar value ≠ '0' := by decide
    exact differs _ (Nat.mod_lt _ (by decide)) (normal.trimmed.resolve_left places)
  have areDigits : ∀ character ∈ decimal.digits.drop (decimal.digits.length - decimal.scale),
      character.isDigit := by
    intro character member
    exact decimal.digits_areDigits character (List.mem_of_mem_drop member)
  have ending : decimal.digits =
      (List.replicate (decimal.scale + 1 - (Numeral.naturalText decimal.coefficient).length) '0' ++
        front) ++ [Nat.digitChar (decimal.coefficient % 10)] := by
    rw [digits, List.append_assoc, ← written]
  have inside : decimal.digits.length - decimal.scale ≤ decimal.digits.length - 1 := by omega
  rw [ending] at areDigits inside ⊢
  rw [List.drop_append_of_le_length (by simpa using inside)] at areDigits ⊢
  exact fraction_matches areDigits nonzero

/-- Without its sign, the text of a normal form matches. -/
theorem IsNormal.unsignedText_matches {decimal : Decimal} (normal : decimal.IsNormal) :
    decimal.unsignedText ∈
      (wholePattern * (1 + RegularExpression.char '.' * fractionPattern)).matches' := by
  have whole := decimal.whole_canonical
  rw [unsignedText]
  split
  · next places =>
    rw [places, Nat.sub_zero, List.take_length] at whole
    rw [← List.append_nil decimal.digits]
    exact Language.append_mem_mul whole (.inl rfl)
  · next places =>
    have point : ['.'] ++ decimal.digits.drop (decimal.digits.length - decimal.scale) ∈
        (RegularExpression.char '.' * fractionPattern).matches' :=
      Language.append_mem_mul rfl (normal.fraction_canonical places)
    exact Language.append_mem_mul whole (.inr point)

/-- The text of a normal form matches. -/
theorem IsNormal.text_matches {decimal : Decimal} (normal : decimal.IsNormal) :
    decimal.text ∈ amountPattern.matches' := by
  have written : decimal.text =
      (if decimal.negative then ['-'] else []) ++ decimal.unsignedText := by
    rw [text, unsignedText]
    cases decimal.negative <;> rfl
  rw [written]
  refine Language.append_mem_mul ?_ normal.unsignedText_matches
  cases decimal.negative with
  | true => exact .inr rfl
  | false => exact .inl rfl

/-- A normal form is not written as a zero with a sign, for that would be read as zero. -/
theorem IsNormal.text_ne_signed_zero {decimal : Decimal} (normal : decimal.IsNormal) :
    decimal.text ≠ ['-', '0'] := by
  intro signedZero
  have read := read?_text normal.signed
  rw [signedZero] at read
  obtain rfl : zero = decimal := Option.some.inj read
  exact absurd signedZero (by decide)

/-- Equal amounts are those with one normal form. -/
theorem normalize_eq_iff (first second : Decimal) :
    first.normalize = second.normalize ↔ first.value = second.value := by
  constructor
  · intro same
    rw [← value_normalize, same, value_normalize]
  · intro same
    refine first.normalize_isNormal.eq_of_value_eq second.normalize_isNormal ?_
    rw [value_normalize, value_normalize, same]

end Decimal

/-- The text that an amount is sent with is canonical. It matches the pattern of amounts, it
is not a zero with a sign, and it denotes the amount. It is read back to the normal form of
the amount, and no other amount has this text. -/
theorem amount_written_canonically (amount : Decimal) :
    ∃ text, Instruction.amountValue amount = .string text ∧
      text.toList ∈ amountPattern.matches' ∧ text ≠ "-0" ∧
      Decimal.denoted text.toList = amount.value ∧
      Record.decimal (.string text) = amount.normalize ∧
      ∀ other, Instruction.amountValue other = .string text ↔ other.value = amount.value := by
  have normal := amount.normalize_isNormal
  have characters : (toString amount.normalize).toList = amount.normalize.text :=
    String.toList_ofList
  refine ⟨toString amount.normalize, rfl, ?_, ?_, ?_, ?_, ?_⟩
  · rw [characters]
    exact normal.text_matches
  · intro signedZero
    have written := congrArg String.toList signedZero
    rw [characters] at written
    exact normal.text_ne_signed_zero written
  · rw [characters, Decimal.denoted_text, Decimal.value_normalize]
  · rw [Record.decimal, characters, Decimal.ofText, Decimal.read?_text normal.signed]
    rfl
  · intro other
    rw [← Decimal.normalize_eq_iff, Instruction.amountValue, Json.Value.string.injEq]
    constructor
    · intro same
      rw [Decimal.normalize_eq_iff]
      exact Decimal.value_eq_of_text_normalize_eq same
    · intro same
      rw [same]

end ExchangeWallet
