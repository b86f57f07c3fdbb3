import ExchangeWallet.Proofs.Binary64.Bounds
import ExchangeWallet.Proofs.Json.Literal
/-!
# Integers as they are written

Digits alone, behind a minus sign or not, are an integer. As long as they fit 64 bits they are all
taken up; the first one that does not, and all behind it, only raise the power of ten. So what is
taken up is no more than what is written, and still fills 64 bits but for one digit.

An integer beyond the words of 64 bits is read to a floating number, which reaches the
sixty-third power of two by what has been taken up. Such a text is accepted if there is a number
for it, and only then. Nothing else in it can be refused.
-/
namespace ExchangeWallet.Json

section Significands

variable {digits : List Char} {value : Nat}

/-- A full significand only counts digits. -/
theorem foldl_pushWhole_full (areDigits : ∀ character ∈ digits, character.isDigit)
    (value : Nat) (exponent : Int) :
    (digits.filterMap Numeral.digit?).foldl Significand.pushWhole ⟨value, exponent, true⟩ =
      ⟨value, exponent + digits.length, true⟩ := by
  induction digits generalizing exponent with
  | nil => simp
  | cons character rest inductionHypothesis =>
    have digit := Numeral.digit?_of_isDigit (areDigits character (by simp))
    have counted : exponent + ((character :: rest).length : Int) = exponent + 1 + rest.length := by
      rw [List.length_cons]
      omega
    rw [List.filterMap_cons_some digit, List.foldl_cons, counted]
    exact inductionHypothesis (fun other member => areDigits other (by simp [member])) _

/-- Digits whose number does not fit 64 bits fill a significand. What has been taken up lacks one
digit of 64 bits, and is not above what is written. -/
structure Fills (digits : List Char) (value taken power : Nat) : Prop where
  significand : (digits.filterMap Numeral.digit?).foldl Significand.pushWhole ⟨value, 0, false⟩ =
    ⟨taken, (power + 1 : Nat), true⟩
  full : 2 ^ 64 ≤ 10 * taken + 9
  below : taken * 10 ^ (power + 1) ≤ Nat.ofDigitChars 10 digits value

/-- Digits in front of the point that do not fit 64 bits fill a significand. -/
theorem exists_fills (areDigits : ∀ character ∈ digits, character.isDigit)
    (fits : value < 2 ^ 64) (large : 2 ^ 64 ≤ Nat.ofDigitChars 10 digits value) :
    ∃ taken power, Fills digits value taken power := by
  induction digits generalizing value with
  | nil => exact absurd fits (Nat.not_lt_of_le large)
  | cons character rest inductionHypothesis =>
    have digit := Numeral.digit?_of_isDigit (areDigits character (by simp))
    have single := Numeral.digit_lt (areDigits character (by simp))
    have restDigits : ∀ other ∈ rest, other.isDigit :=
      fun other member => areDigits other (by simp [member])
    rw [Nat.ofDigitChars_cons] at large
    by_cases room : 10 * value + (character.toNat - '0'.toNat) < 2 ^ 64
    · obtain ⟨taken, power, significand, full, below⟩ := inductionHypothesis restDigits room large
      refine ⟨taken, power, ?_, full, ?_⟩
      · rw [List.filterMap_cons_some digit, List.foldl_cons, ← significand, Significand.pushWhole,
          Significand.hasRoomFor, if_pos (by simpa using room)]
      · rwa [Nat.ofDigitChars_cons]
    · refine ⟨value, rest.length, ?_, ?_, ?_⟩
      · rw [List.filterMap_cons_some digit, List.foldl_cons, Significand.pushWhole,
          Significand.hasRoomFor, if_neg (by simpa using room), foldl_pushWhole_full restDigits]
        simp [add_comm]
      · omega
      · rw [Nat.ofDigitChars_cons, Nat.pow_succ, Nat.mul_left_comm, Nat.mul_comm value]
        have above := Numeral.power_mul_le_ofDigitChars rest
          (10 * value + (character.toNat - '0'.toNat))
        exact (Nat.mul_le_mul_left _ (Nat.le_add_right _ _)).trans above

end Significands

namespace Literal

variable {literal : Literal}

/-- The digits of an integer are those in front of the point. -/
theorem IsPlain.coefficient_eq (plain : literal.IsPlain) :
    literal.coefficient = Nat.ofDigitChars 10 literal.whole 0 := by
  rw [coefficient, plain.1, List.append_nil]

/-- A significand and a power of ten that are taken for an integer beyond the words: no more than
what is written, and at least the sixty-third power of two if both are rounded to powers of two. -/
structure Takes (literal : Literal) (taken power first second : Nat) : Prop where
  made : literal.number? = (Binary64.scaled? literal.negative taken (power : Int)).map .real
  below : taken * 10 ^ power ≤ literal.coefficient
  starts : 2 ^ first ≤ taken
  grows : 2 ^ second ≤ 10 ^ power
  reaches : first + second = 63

/-- An integer beyond the words of 64 bits is scaled. Behind a minus sign it may still fit the
bits, and is scaled by one. -/
theorem IsPlain.exists_takes (plain : literal.IsPlain) (large : ¬literal.IsWord) :
    ∃ taken power first second, literal.Takes taken power first second := by
  have digits := plain.coefficient_eq
  by_cases fits : literal.coefficient < 2 ^ 64
  · have outside : literal.negative = true ∧ 2 ^ 63 < literal.coefficient := by
      by_contra inside
      refine large ⟨plain, ?_⟩
      split
      · next negative => exact Nat.lt_succ_of_le (not_lt.mp fun beyond => inside ⟨negative, beyond⟩)
      · exact fits
    obtain ⟨significand, _⟩ := significand_eq fits
    have some : ¬literal.coefficient = 0 := by omega
    have refused : Number.ofInt? (-(literal.coefficient : Int)) = none := dif_neg (by omega)
    refine ⟨literal.coefficient, 0, 63, 0, ⟨?_, ?_, outside.2.le, le_rfl, rfl⟩⟩
    · rw [number?, if_pos (show _ ∧ _ from plain), significand, ← digits, Significand.whole?,
        if_neg Bool.false_ne_true, if_pos outside.1, if_neg some, refused, Option.none_or,
        Significand.real?]
      rfl
    · rw [Nat.pow_zero, Nat.mul_one]
  · rw [digits] at fits
    obtain ⟨taken, power, significand, full, below⟩ :=
      exists_fills literal.wholeDigits (Nat.two_pow_pos 64) (Nat.le_of_not_lt fits)
    rw [← digits] at below
    have made : Significand.ofWhole literal.whole = ⟨taken, (power + 1 : Nat), true⟩ := significand
    refine ⟨taken, power + 1, 60, 3, ⟨?_, below, by omega, ?_, rfl⟩⟩
    · rw [number?, if_pos (show _ ∧ _ from plain), made, Significand.whole?, if_pos rfl,
        Significand.real?]
    · rw [Nat.pow_succ]
      have positive : 0 < 10 ^ power := Nat.pow_pos (by decide)
      omega

/-- An integer beyond the words of 64 bits is read to a floating number that has its sign and
reaches the sixty-third power of two. -/
theorem IsPlain.reaches (plain : literal.IsPlain) (large : ¬literal.IsWord) {number : Number}
    (found : literal.number? = some number) :
    ∃ real, number = .real real ∧ real.negative = literal.negative ∧ real.Reaches 63 := by
  obtain ⟨taken, power, first, second, takes⟩ := plain.exists_takes large
  rw [takes.made, Option.map_eq_some_iff] at found
  obtain ⟨real, scaled, rfl⟩ := found
  obtain ⟨sign, reached⟩ := Binary64.scaled?_reaches takes.starts takes.grows scaled
  rw [takes.reaches] at reached
  exact ⟨real, rfl, sign, reached⟩

/-- There is a number for an integer of at most 307 digits. -/
theorem IsPlain.exists_number (plain : literal.IsPlain) (few : literal.whole.length ≤ 307) :
    ∃ number, literal.number? = some number := by
  by_cases word : literal.IsWord
  · obtain ⟨number, found, _⟩ := word.met
    exact ⟨number, found⟩
  · obtain ⟨taken, power, first, second, takes⟩ := plain.exists_takes word
    have below := Numeral.ofDigitChars_lt literal.wholeDigits 0
    rw [← plain.coefficient_eq, Nat.zero_add, Nat.mul_one] at below
    have small : taken * 10 ^ power < 10 ^ 307 :=
      (takes.below.trans_lt below).trans_le (pow_le_pow_right₀ (by decide) few)
    have some : 1 ≤ taken := Nat.one_le_two_pow.trans takes.starts
    have tens : 10 ^ power < 10 ^ 307 := (le_mul_of_one_le_left (Nat.zero_le _) some).trans_lt small
    have within : power < 307 := (pow_lt_pow_iff_right₀ (by decide)).mp tens
    obtain ⟨real, scaled⟩ := Binary64.exists_scaled literal.negative within.le small
    exact ⟨.real real, by rw [takes.made, scaled, Option.map_some]⟩

end Literal

section Refusals

/-- A reader stops. -/
def Refuses {α : Type} {bound : Nat} (result : Except Stop (Parsed α bound)) : Prop :=
  ∃ stop, result = .error stop

/-- A change of the result does not help a reader that stops. -/
theorem Refuses.map {α β : Type} {bound larger : Nat} {result : Except Stop (Parsed α bound)}
    (refused : Refuses result) (change : Parsed α bound → Parsed β larger) :
    Refuses (result.map change) := by
  obtain ⟨stop, rfl⟩ := refused
  exact ⟨stop, rfl⟩

/-- What a reader stops in denotes nothing. -/
theorem read_of_refused {text : List Char} (refused : Refuses (readValue maxDepth text))
    (value : Value) : read (String.ofList text) ≠ .ok value := by
  obtain ⟨stop, stopped⟩ := refused
  have document : readDocument text = .error stop := by
    rw [readDocument, stopped]
    rfl
  rw [read, String.toList_ofList, document]
  intro denoted
  cases denoted

namespace Literal

variable {literal : Literal}

/-- Nothing stands behind the digits of an integer. -/
theorem IsPlain.behindWhole_eq (plain : literal.IsPlain) : literal.behindWhole = [] := by
  rw [behindWhole, exponentText, plain.1, plain.2]
  rfl

/-- An integer is written as its digits behind its sign. -/
theorem IsPlain.text_eq (plain : literal.IsPlain) :
    literal.text = (if literal.negative then ['-'] else []) ++ literal.whole := by
  rw [text, plain.behindWhole_eq, List.append_nil]

/-- Digits alone for which there is no number are refused. -/
theorem IsPlain.readNumber_refuses (plain : literal.IsPlain) (none : literal.number? = none) :
    Refuses (readNumber literal.negative literal.whole) := by
  obtain ⟨taken, dropped⟩ := literal.digits_until_behindWhole boundary_nil
  rw [number?, if_pos (show _ ∧ _ from plain)] at none
  rw [plain.behindWhole_eq, List.append_nil, List.append_nil] at taken dropped
  have behind : Refuses (readBehindWhole literal.negative (Significand.ofWhole literal.whole)
      (literal.whole.dropWhile Char.isDigit)) := by
    rw [dropped, readBehindWhole_boundary literal.negative _ boundary_nil, none]
    exact ⟨_, rfl⟩
  unfold readNumber
  simp only [taken, literal.nonempty, literal.leading, if_false, dif_neg, not_false_iff]
  exact behind.map _

/-- The text of an integer for which there is no number is refused. -/
theorem IsPlain.readValue_refuses (plain : literal.IsPlain) (none : literal.number? = none)
    {depth : Nat} : Refuses (readValue depth literal.text) := by
  have stops := plain.readNumber_refuses none
  have areDigits := literal.areDigits
  rw [plain.text_eq]
  cases negative : literal.negative with
  | true =>
    rw [negative] at stops
    obtain ⟨_, same⟩ := readValue_of_minus
    change Refuses (readValue depth ('-' :: literal.whole))
    rw [same]
    exact stops.map _
  | false =>
    rw [negative] at stops
    obtain ⟨first, others, written⟩ := List.exists_cons_of_ne_nil literal.nonempty
    rw [written] at stops areDigits ⊢
    obtain ⟨_, same⟩ := readValue_of_digit (areDigits first (by simp))
    change Refuses (readValue depth (first :: others))
    rw [same]
    exact stops.map _

/-- An integer denotes the number that there is for it, and nothing else. -/
theorem IsPlain.read_iff (plain : literal.IsPlain) (value : Value) :
    read (String.ofList literal.text) = .ok value ↔
      ∃ number, literal.number? = some number ∧ value = .number number := by
  constructor
  · intro denoted
    cases made : literal.number? with
    | some number =>
      have spelled := Spelling.read_text ⟨literal.text, _, literal.spells maxDepth made⟩
      exact ⟨number, rfl, Except.ok.inj (denoted.symm.trans spelled)⟩
    | none =>
      exact absurd denoted (read_of_refused (plain.readValue_refuses made) value)
  · rintro ⟨number, made, rfl⟩
    exact Spelling.read_text ⟨literal.text, _, literal.spells maxDepth made⟩

end Literal

end Refusals

end ExchangeWallet.Json
