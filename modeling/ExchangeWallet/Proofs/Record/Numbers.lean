import ExchangeWallet.Proofs.Record.Amounts
/-!
# Decimals of numbers

A number in a slot is decoded from its text. Where a decimal can hold what the text denotes, it is
decoded exactly, whether the text has an exponent or not; and what is larger than every decimal
is decoded as zero.
-/
namespace ExchangeWallet

open Json (Literal Number)

-- The powers are large, and nothing below asks for more than their signs.
attribute [local irreducible] Binary64.unitsPerOne Binary64.placesBelowOne

/-- A number is decoded as what is written. -/
structure Record.DecodesAs (number : Number) (literal : Literal) : Prop where
  /-- What a decimal can hold is decoded exactly. -/
  exact : literal.IsRepresentable → (decimal (.number number)).value = literal.value
  /-- What is beyond all decimals is decoded as zero. -/
  beyond : (∀ largest : Decimal, largest.value < |literal.value|) →
    decimal (.number number) = Decimal.zero

/-- What is above the largest coefficient is beyond all decimals, and nothing else is. -/
theorem beyond_iff {literal : Literal} :
    (∀ largest : Decimal, largest.value < |literal.value|) ↔ 2 ^ 96 - 1 < |literal.value| := by
  constructor
  · intro beyond
    have largest := beyond ⟨false, 2 ^ 96 - 1, 0, by decide, by decide⟩
    rw [Decimal.value] at largest
    norm_num at largest ⊢
    exact largest
  · intro large decimal
    exact decimal.value_le.trans_lt large

/-- A number is decoded as the normalized number that it is printed as. -/
theorem decodesAs_of_normalized {number : Number} {literal : Literal}
    (text : literal.text = number.text) (normalized : literal.IsNormalized) :
    Record.DecodesAs number literal where
  exact representable := by
    change (Decimal.ofText number.text).value = literal.value
    rw [← text]
    exact normalized.value_ofText (literal.isRepresentable_iff.mp representable)
  beyond beyond := by
    change Decimal.ofText number.text = Decimal.zero
    rw [← text]
    exact normalized.ofText_of_exceeding (beyond_iff.mp beyond)

/-- Every number is printed as a written number, which it is decoded as. -/
theorem exists_decodesAs (number : Number) :
    ∃ literal : Literal, literal.text = number.text ∧ Record.DecodesAs number literal := by
  obtain ⟨literal, text, _, normalized⟩ := number.exists_literal
  exact ⟨literal, text, decodesAs_of_normalized text normalized⟩

/-- A number is printed in a text that is a number in one way only. Where a decimal can hold what
is written there, the slot of the number is decoded as exactly that; where no decimal is as large,
it is decoded as zero. -/
theorem Record.number_decoded_as_printed (number : Number) :
    (∃! literal : Literal, literal.text = number.text) ∧
      ∀ literal : Literal, literal.text = number.text → DecodesAs number literal := by
  obtain ⟨printed, text, decoded⟩ := exists_decodesAs number
  have only (literal : Literal) (same : literal.text = number.text) : literal = printed :=
    Literal.text_injective (same.trans text.symm)
  refine ⟨⟨printed, text, only⟩, ?_⟩
  intro literal same
  rw [only literal same]
  exact decoded

/-- A one with forty zeros behind it, written with an exponent. -/
def Json.Literal.immense : Literal where
  negative := false
  whole := ['1']
  fraction := []
  exponent := some (.ofPower 40)
  nonempty := List.cons_ne_nil _ _
  areDigits := List.forall_mem_singleton.mpr rfl
  leading := fun zero => zero.2 rfl

/-- The largest word of 64 bits is decoded as it is, and the floating number next to a one with
forty zeros as zero. -/
theorem Record.largest_word_and_immense :
    (decimal (.number (.whole (2 ^ 64 - 1) (by decide)))).value = 18446744073709551615 ∧
      decimal (.number (.real ⟨false, 8271806125530277, 1154, by decide, by decide,
        .inr (by decide)⟩)) = Decimal.zero := by
  constructor
  · have word : (Literal.ofNatural false (2 ^ 64 - 1)).value = 18446744073709551615 := by
      rw [Literal.value_ofNatural]
      norm_num
    have printed := (number_decoded_as_printed (.whole (2 ^ 64 - 1) (by decide))).2
      (.ofNatural false (2 ^ 64 - 1)) (List.append_nil _)
    rw [printed.exact ⟨⟨false, 2 ^ 64 - 1, 0, by decide, by decide⟩, ?_⟩, word]
    rw [word, Decimal.value]
    norm_num
  · apply ((number_decoded_as_printed _).2 Literal.immense (by decide +kernel)).beyond
    apply beyond_iff.mpr
    have coefficient : Literal.immense.coefficient = 1 := by decide +kernel
    have power : Literal.immense.power = 40 := by decide +kernel
    rw [Json.Literal.abs_value, coefficient, power]
    norm_num

end ExchangeWallet
