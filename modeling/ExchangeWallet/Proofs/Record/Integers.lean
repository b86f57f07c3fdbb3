import ExchangeWallet.Proofs.Binary64.Shortest
import ExchangeWallet.Proofs.Json.Integral
import ExchangeWallet.Record.Slot
/-!
# Integers in slots

An integer that is written without fraction and exponent is read to a whole number or, if it is
too large for one, to a floating number. Both give the nearest integer of a signed word of 64
bits. The digits of the same integer in a string give it too, as long as it fits such a word; a
larger one is refused there, and taken for zero.
-/
namespace ExchangeWallet

open Json (Literal Number Value)
open Numeral (IsInt64)

-- The powers are large, and nothing below asks for more than their signs.
attribute [local irreducible] Binary64.unitsPerOne Binary64.placesBelowOne

section Written

variable {literal : Literal} {number : Int}

/-- An integer is its digits behind its sign. -/
theorem Json.Literal.IsPlain.number_eq (plain : literal.IsPlain)
    (denotes : literal.value = number) :
    number = if literal.negative then -(literal.coefficient : Int) else literal.coefficient := by
  rw [plain.value_eq] at denotes
  split
  · next negative =>
    rw [if_pos negative, neg_one_mul] at denotes
    exact_mod_cast denotes.symm
  · next positive =>
    rw [if_neg positive, one_mul] at denotes
    exact_mod_cast denotes.symm

/-- An integer that is read to a number gives the nearest one of a signed word. -/
theorem Record.integer_of_plain (plain : literal.IsPlain) (denotes : literal.value = number)
    {found : Number} (made : literal.number? = some found) :
    integer (.number found) = Numeral.saturate number := by
  by_cases word : literal.IsWord
  · by_cases signed : literal.negative = true → literal.coefficient ≠ 0
    · obtain ⟨whole, inRange, read, same⟩ := word.exists_whole signed
      obtain rfl := Option.some.inj (made.symm.trans read)
      have equal : whole = number := by exact_mod_cast same.trans denotes
      rw [integer, equal]
    · push Not at signed
      obtain ⟨real, read, _, _, covers⟩ := word.exists_real signed.1 signed.2
      obtain rfl := Option.some.inj (made.symm.trans read)
      have zero : number = 0 := by
        rw [plain.number_eq denotes, signed.2]
        simp
      rw [signed.2, Nat.cast_zero, zero_mul] at covers
      rw [integer, Binary64.truncate_of_zero (Binary64.units_of_covers_zero covers), zero]
  · obtain ⟨real, rfl, sign, reached⟩ := plain.reaches word made
    have truncated := Binary64.truncate_of_reaches reached
    have beyond : ¬literal.coefficient < if literal.negative then 2 ^ 63 + 1 else 2 ^ 64 :=
      fun inRange => word ⟨plain, inRange⟩
    rw [sign] at truncated
    rw [integer, plain.number_eq denotes, Numeral.saturate, Numeral.saturate]
    split at truncated
    · next negative =>
      rw [if_pos negative] at beyond ⊢
      omega
    · next positive =>
      rw [if_neg positive] at beyond ⊢
      omega

/-- The digits of an integer behind its sign are read as it. -/
theorem Json.Literal.IsPlain.integer?_text (plain : literal.IsPlain)
    (denotes : literal.value = number) : Numeral.integer? literal.text = some number := by
  obtain ⟨positive, negative⟩ := Numeral.integer?_digits literal.nonempty literal.wholeDigits
  rw [plain.text_eq, plain.number_eq denotes, plain.coefficient_eq]
  split
  · exact negative
  · exact positive

/-- The slot of a string gives the integer that is written in it, if that fits a signed word, and
zero otherwise. -/
theorem Record.integer_string (plain : literal.IsPlain) (denotes : literal.value = number) :
    integer (.string (String.ofList literal.text)) = if IsInt64 number then number else 0 := by
  rw [integer, String.toList_ofList, Numeral.int64?, plain.integer?_text denotes,
    Option.filter_some]
  split <;> simp_all

/-- An integer that is accepted gives the nearest one of a signed word. -/
theorem Record.integer_of_accepted (plain : literal.IsPlain) (denotes : literal.value = number)
    {value : Value} (accepted : Json.read (String.ofList literal.text) = .ok value) :
    integer value = Numeral.saturate number := by
  obtain ⟨found, made, rfl⟩ := (plain.read_iff value).mp accepted
  exact integer_of_plain plain denotes made

/-- An integer of at most 307 digits is accepted. -/
theorem Json.Literal.IsPlain.exists_accepted (plain : literal.IsPlain)
    (few : literal.whole.length ≤ 307) :
    ∃ value, Json.read (String.ofList literal.text) = .ok value := by
  obtain ⟨found, made⟩ := plain.exists_number few
  exact ⟨.number found, (plain.read_iff _).mpr ⟨found, made, rfl⟩⟩

end Written

/-- An integer of any size, written without fraction and exponent, is accepted if it has at most
307 digits. Wherever it is accepted, its slot gives the nearest integer of a signed word of 64
bits: the integer itself if it fits the word, and never less for a larger integer. -/
theorem Record.integers_saturate (literal : Literal) (plain : literal.IsPlain) (number : Int)
    (denotes : literal.value = number) :
    (literal.whole.length ≤ 307 →
      ∃ value, Json.read (String.ofList literal.text) = .ok value) ∧
    ∀ value, Json.read (String.ofList literal.text) = .ok value →
      integer value = min (max number (-2 ^ 63)) (2 ^ 63 - 1) ∧
      (IsInt64 number → integer value = number) ∧
      ∀ (other : Literal) (otherNumber : Int) (otherValue : Value), other.IsPlain →
        other.value = otherNumber → Json.read (String.ofList other.text) = .ok otherValue →
          number ≤ otherNumber → integer value ≤ integer otherValue := by
  refine ⟨plain.exists_accepted, ?_⟩
  intro value accepted
  rw [integer_of_accepted plain denotes accepted, Numeral.saturate]
  refine ⟨by omega, ?_, ?_⟩
  · rintro ⟨above, below⟩
    omega
  · intro other otherNumber otherValue otherPlain otherDenotes otherAccepted below
    rw [integer_of_accepted otherPlain otherDenotes otherAccepted, Numeral.saturate]
    omega

/-- Minus a one with ninety-nine zeros behind it. -/
def Json.Literal.hundredDigits : Literal where
  negative := true
  whole := '1' :: List.replicate 99 '0'
  fraction := []
  exponent := none
  nonempty := List.cons_ne_nil _ _
  areDigits := List.all_eq_true.mp rfl
  leading := fun zero => absurd zero.1 (by decide)

/-- An integer of a hundred digits behind a minus sign is accepted, and gives the least integer of a
signed word. -/
theorem Record.hundred_digits_saturate :
    ∃ value, Json.read (String.ofList Literal.hundredDigits.text) = .ok value ∧
      integer value = -2 ^ 63 := by
  have plain : Literal.hundredDigits.IsPlain := ⟨rfl, rfl⟩
  have digits : Literal.hundredDigits.coefficient = 10 ^ 99 := by decide +kernel
  have denotes : Literal.hundredDigits.value = (-10 ^ 99 : Int) := by
    rw [plain.value_eq, digits, Literal.hundredDigits]
    norm_num
  obtain ⟨accepts, saturates⟩ := integers_saturate .hundredDigits plain (-10 ^ 99) denotes
  obtain ⟨value, accepted⟩ := accepts (by decide)
  refine ⟨value, accepted, ?_⟩
  rw [(saturates value accepted).1]
  decide +kernel

/-- The number and the string that an integer is written in give the same integer just as long as
it fits a signed word. The string gives zero for any other one. -/
theorem Record.numerals_agree_within_word (literal : Literal) (plain : literal.IsPlain)
    (number : Int) (denotes : literal.value = number) (value : Value)
    (accepted : Json.read (String.ofList literal.text) = .ok value) :
    (integer value = integer (.string (String.ofList literal.text)) ↔ IsInt64 number) ∧
      integer (.string (String.ofList literal.text)) = if IsInt64 number then number else 0 := by
  have string := integer_string plain denotes
  rw [integer_of_accepted plain denotes accepted, string]
  refine ⟨?_, rfl⟩
  constructor
  · intro same
    by_contra outside
    rw [if_neg outside, Numeral.saturate] at same
    rw [IsInt64] at outside
    omega
  · intro inside
    rw [if_pos inside, Numeral.saturate]
    rw [IsInt64] at inside
    omega

/-- The sixty-third power of two behind a sign. -/
def Json.Literal.wordLimit (negative : Bool) : Literal where
  negative := negative
  whole := "9223372036854775808".toList
  fraction := []
  exponent := none
  nonempty := by decide
  areDigits := List.all_eq_true.mp rfl
  leading := fun zero => absurd zero.1 (by decide)

/-- The digits of the sixty-third power of two. -/
theorem Json.Literal.value_wordLimit (negative : Bool) :
    (wordLimit negative).value = ((if negative then -2 ^ 63 else 2 ^ 63 : Int) : ℚ) := by
  have plain : (wordLimit negative).IsPlain := ⟨rfl, rfl⟩
  have digits : (wordLimit negative).coefficient = 2 ^ 63 := by
    cases negative <;> decide +kernel
  rw [plain.value_eq, digits]
  cases negative <;> norm_num [wordLimit]

/-- The least integer of a signed word is the same in a number and in a string. -/
theorem Record.least_word_agrees :
    ∃ value, Json.read (String.ofList (Literal.wordLimit true).text) = .ok value ∧
      integer value = integer (.string (String.ofList (Literal.wordLimit true).text)) := by
  have plain : (Literal.wordLimit true).IsPlain := ⟨rfl, rfl⟩
  obtain ⟨value, accepted⟩ := plain.exists_accepted (by decide)
  have agree := numerals_agree_within_word (.wordLimit true) plain _
    (Literal.value_wordLimit true) value accepted
  exact ⟨value, accepted, agree.1.mpr (by decide)⟩

/-- Not every integer is the same in a number and in a string: the first one beyond the words is
taken for the largest word in a number, and for zero in a string. -/
theorem Record.not_every_numeral_agrees :
    ¬∀ (literal : Literal) (number : Int) (value : Value), literal.IsPlain →
      literal.value = number → Json.read (String.ofList literal.text) = .ok value →
        integer value = integer (.string (String.ofList literal.text)) := by
  intro agree
  have plain : (Literal.wordLimit false).IsPlain := ⟨rfl, rfl⟩
  have denotes := Literal.value_wordLimit false
  obtain ⟨value, accepted⟩ := plain.exists_accepted (by decide)
  have same := agree (.wordLimit false) _ value plain denotes accepted
  rw [integer_of_accepted plain denotes accepted, integer_string plain denotes] at same
  exact absurd same (by decide)

end ExchangeWallet
