import ExchangeWallet.Proofs.Record.Numbers
/-!
# Amounts within reach

An amount in the range of decimals is found in the slot of every number that is printed for it,
and is decoded exactly if a decimal can hold it. In the slot of a string it may be spelled in
other ways. There it is found exactly if its spelling is within reach, and then it is the same
amount, unless a decimal has no room for the digits in front of the exponent.
-/
namespace ExchangeWallet

open Json (Literal Number)

-- The powers are large, and nothing below asks for more than their signs.
attribute [local irreducible] Binary64.unitsPerOne Binary64.placesBelowOne

section Spelled

variable {literal : Literal}

/-- A number that is printed for an amount in the range of decimals is decoded to one that is not
zero, and exactly if a decimal can hold it. -/
theorem Record.found_in_number {number : Number} (printed : literal.text = number.text)
    (least : 1 / 10 ^ 28 ≤ |literal.value|) (most : |literal.value| ≤ 2 ^ 96 - 1) :
    (decimal (.number number)).value ≠ 0 ∧
      (literal.IsRepresentable → (decimal (.number number)).value = literal.value) := by
  obtain ⟨other, text, _, normalized⟩ := number.exists_literal
  obtain rfl := Literal.text_injective (text.trans printed.symm)
  refine ⟨?_, (decodesAs_of_normalized printed normalized).exact⟩
  change (Decimal.ofText number.text).value ≠ 0
  rw [← printed]
  exact (Literal.value_ofText_ne_zero_iff least most).mpr (normalized.isWithinReach least most)

/-- The slot of a string is decoded from its text. -/
theorem Record.decimal_string (text : List Char) :
    decimal (.string (String.ofList text)) = Decimal.ofText text := by
  rw [decimal, String.toList_ofList]

end Spelled

/-- An amount in the range of decimals is not decoded as zero in the slot of a number, where it is
decoded exactly if a decimal can hold it. In the slot of a string, its spelling decides: it is
decoded as zero exactly if that is out of reach, and an amount that a decimal can hold is decoded
exactly if and only if its exponent is at most twenty-eight and a decimal can hold its base. -/
theorem Record.amounts_in_range_found (literal : Literal) (least : 1 / 10 ^ 28 ≤ |literal.value|)
    (most : ∃ largest : Decimal, |literal.value| ≤ largest.value) :
    (∀ number : Number, literal.text = number.text →
      (decimal (.number number)).value ≠ 0 ∧
        (literal.IsRepresentable → (decimal (.number number)).value = literal.value)) ∧
    ((decimal (.string (String.ofList literal.text))).value ≠ 0 ↔ literal.IsWithinReach) ∧
    (literal.IsRepresentable →
      ((decimal (.string (String.ofList literal.text))).value = literal.value ↔
        (∀ exponent ∈ literal.exponent, exponent.size ≤ 28) ∧ literal.base.IsRepresentable)) := by
  obtain ⟨largest, most⟩ := most
  have most := most.trans largest.value_le
  have nonzero : literal.value ≠ 0 := by
    rw [← abs_pos]
    exact lt_of_lt_of_le (by norm_num) least
  rw [decimal_string, Literal.isRepresentable_iff, Literal.isRepresentable_iff]
  refine ⟨?_, Literal.value_ofText_ne_zero_iff least most, ?_⟩
  · intro number printed
    rw [← Literal.isRepresentable_iff]
    exact found_in_number printed least most
  · intro size
    exact Literal.value_ofText_eq_iff size nonzero

/-- A one with twenty-eight zeros behind it, written with an exponent. -/
def Json.Literal.tenOctillion : Literal :=
  { Literal.immense with exponent := some (.ofPower 28) }

/-- A one with twenty-eight zeros is found in the slot of the number that is printed for it, and
in a string with the same text. -/
theorem Record.large_power_is_found :
    (decimal (.number (.real ⟨false, 4547473508864641, 1115, by decide, by decide,
        .inr (by decide)⟩))).value = 10 ^ 28 ∧
      (decimal (.string "1e+28")).value = 10 ^ 28 := by
  have value : Literal.tenOctillion.value = 10 ^ 28 := by
    have coefficient : Literal.tenOctillion.coefficient = 1 := by decide +kernel
    have power : Literal.tenOctillion.power = 28 := by decide +kernel
    have positive : Literal.tenOctillion.negative = false := rfl
    rw [Literal.value, coefficient, power, positive]
    norm_num
  have baseSize : |Literal.tenOctillion.base.value| = 1 := by
    have coefficient : Literal.tenOctillion.base.coefficient = 1 := by decide +kernel
    have power : Literal.tenOctillion.base.power = 0 := by decide +kernel
    rw [Literal.abs_value, coefficient, power]
    norm_num
  have representable : Literal.tenOctillion.IsRepresentable := by
    refine ⟨⟨false, 10 ^ 28, 0, by decide, by decide⟩, ?_⟩
    rw [value, Decimal.value]
    norm_num
  have base : Literal.tenOctillion.base.IsRepresentable := by
    rw [Literal.isRepresentable_iff, baseSize]
    refine ⟨⟨false, 1, 0, by decide, by decide⟩, ?_⟩
    rw [Decimal.abs_value]
    norm_num
  have least : 1 / 10 ^ 28 ≤ |Literal.tenOctillion.value| := by
    rw [value]
    norm_num
  obtain ⟨printed, _, spelled⟩ := amounts_in_range_found .tenOctillion least
    (representable.imp fun _ same => by rw [same, value]; norm_num)
  constructor
  · rw [(printed _ (by decide +kernel)).2 representable, value]
  · have exact := (spelled representable).mpr ⟨by decide +kernel, base⟩
    rw [value] at exact
    exact exact

/-- Ten, spelled with one digit at the twenty-eighth place and an exponent. -/
def Json.Literal.distantTen : Literal :=
  { Literal.ofZero false with
    fraction := "0000000000000000000000000001".toList
    exponent := some ⟨false, .absent, ['2', '9'], List.cons_ne_nil _ _, List.all_eq_true.mp rfl⟩
    areDigits := List.all_eq_true.mp rfl }

/-- Not every spelling of an amount that a decimal can hold is found: ten may be decoded as zero,
since no exponent moves the point by twenty-nine places. -/
theorem Record.not_every_spelling_found :
    ¬∀ literal : Literal, 1 / 10 ^ 28 ≤ |literal.value| →
      (∃ largest : Decimal, |literal.value| ≤ largest.value) →
        (decimal (.string (String.ofList literal.text))).value ≠ 0 := by
  intro found
  have coefficient : Literal.distantTen.coefficient = 1 := by decide +kernel
  have power : Literal.distantTen.power = 1 := by decide +kernel
  have size : |Literal.distantTen.value| = 10 := by
    rw [Literal.abs_value, coefficient, power]
    norm_num
  have ten : (⟨false, 10, 0, by decide, by decide⟩ : Decimal).value = 10 := by
    rw [Decimal.value]
    norm_num
  apply found Literal.distantTen
  · rw [size]
    norm_num
  · exact ⟨_, size.trans_le ten.ge⟩
  · rw [Decimal.value_eq_zero_iff]
    decide +kernel

end ExchangeWallet
