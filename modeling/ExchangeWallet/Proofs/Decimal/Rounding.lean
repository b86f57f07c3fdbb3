import ExchangeWallet.Proofs.Decimal.Exponents
/-!
# Positional texts of any length

A text may have more digits than a decimal. Digits behind the point are taken up while there is
room for them, and the first one without room rounds the last place, a half going up; digits in
front of the point that do not fit refuse the text. So a text is refused exactly if it is too
large. What is read from any other text is its value with as many places as there is room for:
it is exact if a decimal has this value at all, and nothing is left only of what is less than
half of the twenty-eighth place.

An exponent moves the point of what has been read. To the left it may round once more. To the
right it does not, since a value with room for the digits in front of its new point had room
for them before.
-/
namespace ExchangeWallet.Decimal

/-- A coefficient at a scale is a value rounded to the places of the scale, a half going up, and
there is no room for a finer place: all places are taken, or nothing is left to be rounded, or
the coefficient is full. -/
structure IsRounded (value : ℚ) (coefficient scale : Nat) : Prop where
  below : (coefficient : ℚ) ≤ value * 10 ^ scale + 1 / 2
  above : value * 10 ^ scale + 1 / 2 < coefficient + 1
  finest : scale = 28 ∨ value * 10 ^ scale = coefficient ∨
    2 ^ 96 - 1 / 2 ≤ value * 10 ^ (scale + 1)

/-- Some decimal has this size. -/
def IsSize (value : ℚ) : Prop :=
  ∃ decimal : Decimal, |decimal.value| = value

/-- What is too large is rounded to nothing, and everything else to parts within bounds. -/
def RoundsTo (value : ℚ) : Option (Nat × Nat) → Prop
  | none => 2 ^ 96 - 1 / 2 ≤ value
  | some (coefficient, scale) =>
    coefficient < 2 ^ 96 ∧ scale ≤ 28 ∧ IsRounded value coefficient scale

section Rounded

variable {value : ℚ} {coefficient scale : Nat}

/-- What has no digit beyond its places is rounded to itself. -/
theorem isRounded_self (exact : value * 10 ^ scale = coefficient) :
    IsRounded value coefficient scale := by
  constructor
  · rw [exact]
    linarith
  · rw [exact]
    linarith
  · exact .inr (.inl exact)

/-- A full coefficient that is rounded up gives up a place for one more digit. -/
theorem isRounded_carried {fewer : Nat} (low : 2 ^ 96 - 1 / 2 ≤ value * 10 ^ (fewer + 1))
    (high : value * 10 ^ (fewer + 1) < 2 ^ 96) :
    IsRounded value ((2 ^ 96 - 1 + 5) / 10) fewer := by
  have full : 2 ^ 96 - 1 / 2 ≤ value * 10 ^ (fewer + 1) := low
  have tenth : (2 ^ 96 - 1 + 5) / 10 = 7922816251426433759354395034 := rfl
  rw [pow_succ (10 : ℚ), ← mul_assoc] at low high
  rw [tenth]
  constructor
  · norm_num at low ⊢
    linarith
  · norm_num at high ⊢
    linarith
  · exact .inr (.inr full)

/-- Dividing by a power of ten, with half of it added, rounds to the last place. -/
theorem isRounded_div {held lost : Nat} (same : value * 10 ^ 28 = held / 10 ^ (lost + 1)) :
    IsRounded value ((held + 5 * 10 ^ lost) / 10 ^ (lost + 1)) 28 := by
  have half : value * 10 ^ 28 + 1 / 2 =
      (held + 5 * 10 ^ lost : Nat) / (10 ^ (lost + 1) : Nat) := by
    rw [same]
    push_cast
    rw [pow_succ]
    field_simp
    ring
  constructor
  · rw [half]
    exact Nat.cast_div_le
  · rw [half, ← Nat.floor_div_eq_div (K := ℚ)]
    exact Nat.lt_floor_add_one _
  · exact .inl rfl

namespace IsRounded

variable (rounded : IsRounded value coefficient scale)

include rounded

/-- Rounding takes away less than half of a value of which something is left. -/
theorem half_le (some : coefficient ≠ 0) : value / 2 ≤ coefficient / 10 ^ scale := by
  have least : (1 : ℚ) ≤ coefficient := by exact_mod_cast Nat.one_le_iff_ne_zero.mpr some
  have above := rounded.above
  rw [le_div_iff₀ (by positivity), div_mul_eq_mul_div]
  linarith

/-- A value without digits beyond its places is kept. -/
theorem coefficient_eq {whole : Nat} (same : value * 10 ^ scale = whole) : coefficient = whole := by
  have below := rounded.below
  have above := rounded.above
  rw [same] at below above
  apply le_antisymm
  · have less : (coefficient : ℚ) < (whole + 1 : Nat) := by
      push_cast
      linarith
    exact Nat.lt_succ_iff.mp (Nat.cast_lt.mp less)
  · have less : (whole : ℚ) < (coefficient + 1 : Nat) := by
      push_cast
      linarith
    exact Nat.lt_succ_iff.mp (Nat.cast_lt.mp less)

/-- A value that some decimal has is not changed by rounding. -/
theorem exact (size : IsSize value) : (coefficient : ℚ) / 10 ^ scale = value := by
  obtain ⟨same, equal⟩ := size
  rw [abs_value] at equal
  have held : value * 10 ^ same.scale = same.coefficient := by
    rw [← equal, div_mul_cancel₀ _ (by positivity)]
  have enough (fine : same.scale ≤ scale) : (coefficient : ℚ) / 10 ^ scale = value := by
    obtain ⟨more, total⟩ := Nat.exists_eq_add_of_le fine
    have whole : value * 10 ^ scale = (same.coefficient * 10 ^ more : Nat) := by
      rw [total, pow_add, ← mul_assoc, held]
      push_cast
      rfl
    rw [rounded.coefficient_eq whole, ← whole, mul_div_cancel_right₀ _ (by positivity)]
  rcases rounded.finest with all | kept | full
  · apply enough
    rw [all]
    exact same.scale_le
  · rw [← kept, mul_div_cancel_right₀ _ (by positivity)]
  · apply enough
    by_contra coarse
    have finer : value * 10 ^ (scale + 1) ≤ same.coefficient := by
      have positive : 0 ≤ value := by
        rw [← equal]
        positivity
      rw [← held]
      apply mul_le_mul_of_nonneg_left _ positive
      exact pow_le_pow_right₀ (by norm_num) (Nat.lt_of_not_le coarse)
    have most : (same.coefficient : ℚ) + 1 ≤ 2 ^ 96 := by exact_mod_cast same.coefficient_lt
    linarith

/-- Nothing is left of a value exactly if it is less than half of the last place. -/
theorem coefficient_eq_zero_iff (positive : 0 ≤ value) (places : scale ≤ 28) :
    coefficient = 0 ↔ value < 5 / 10 ^ 29 := by
  constructor
  · rintro rfl
    have above := rounded.above
    rw [Nat.cast_zero] at above
    rcases rounded.finest with all | kept | full
    · rw [all] at above
      norm_num at above ⊢
      linarith
    · rw [Nat.cast_zero] at kept
      rw [(mul_eq_zero.mp kept).resolve_right (by positivity)]
      norm_num
    · rw [pow_succ (10 : ℚ), ← mul_assoc] at full
      norm_num at full above
      linarith
  · intro small
    have below := rounded.below
    have grown : value * 10 ^ scale ≤ value * 10 ^ 28 :=
      mul_le_mul_of_nonneg_left (pow_le_pow_right₀ (by norm_num) places) positive
    have less : (coefficient : ℚ) < (1 : Nat) := by
      rw [Nat.cast_one]
      norm_num at small grown
      linarith
    exact Nat.lt_one_iff.mp (Nat.cast_lt.mp less)

/-- A value that is rounded to a coefficient within bounds is not too large itself. -/
theorem value_lt (positive : 0 ≤ value) (fits : coefficient < 2 ^ 96) :
    value < 2 ^ 96 - 1 / 2 := by
  have above := rounded.above
  have grown : value ≤ value * 10 ^ scale :=
    le_mul_of_one_le_right positive (one_le_pow₀ (by norm_num))
  have most : (coefficient : ℚ) + 1 ≤ 2 ^ 96 := by exact_mod_cast fits
  linarith

end IsRounded

end Rounded

namespace Progress

section Digits

variable {coefficient scale : Nat} {digits : List Char}

/-- A digit that has no place decides on the last place before it, whatever digits follow. A
coefficient that grows out of its bits by that gives up its last place, if it has one. -/
theorem rounded?_roundsTo {value : ℚ} {digit : Nat}
    (areDigits : ∀ character ∈ digits, character.isDigit)
    (fits : coefficient < 2 ^ 96) (places : scale ≤ 28)
    (full : scale = 28 ∨ 2 ^ 96 ≤ 10 * coefficient + digit) (single : digit < 10)
    (low : ((10 * coefficient + digit : Nat) : ℚ) / 10 ≤ value * 10 ^ scale)
    (high : value * 10 ^ scale < ((10 * coefficient + digit : Nat) + 1) / 10) :
    RoundsTo value ((Progress.mk coefficient scale true true).rounded? digit digits) := by
  have admitted : digits.all (fun character => character.isDigit || character == '_') = true := by
    rw [List.all_eq_true]
    intro character member
    rw [areDigits character member, Bool.true_or]
  have limit : scale = 28 ∨ 2 ^ 96 - 1 / 2 ≤ value * 10 ^ (scale + 1) := by
    refine full.imp_right fun wide => ?_
    have wide : (2 ^ 96 : ℚ) ≤ (10 * coefficient + digit : Nat) := by exact_mod_cast wide
    rw [pow_succ (10 : ℚ), ← mul_assoc]
    linarith
  push_cast at low high
  rw [rounded?, if_pos admitted]
  split
  · next down =>
    have down : (digit : ℚ) + 1 ≤ 5 := by exact_mod_cast down
    exact ⟨fits, places, by linarith, by linarith, limit.imp_right .inr⟩
  · next up =>
    have up : (5 : ℚ) ≤ digit := by exact_mod_cast Nat.le_of_not_lt up
    have least : (digit : ℚ) + 1 ≤ 10 := by exact_mod_cast single
    split
    · next room =>
      refine ⟨room, places, ?_, ?_, limit.imp_right .inr⟩
      · push_cast
        linarith
      · push_cast
        linarith
    · next carried =>
      obtain rfl : coefficient = 2 ^ 96 - 1 := by
        change ¬coefficient + 1 < 2 ^ 96 at carried
        omega
      norm_num at low high
      split
      · next whole =>
        change scale = 0 at whole
        rw [whole, pow_zero, mul_one] at low
        change (2 ^ 96 - 1 / 2 : ℚ) ≤ value
        linarith
      · next some =>
        change scale ≠ 0 at some
        obtain ⟨fewer, rfl⟩ : ∃ fewer, scale = fewer + 1 := ⟨scale - 1, by omega⟩
        refine ⟨show (2 ^ 96 - 1 + 5) / 10 < 2 ^ 96 by decide, Nat.le_of_succ_le places, ?_⟩
        apply isRounded_carried
        · norm_num
          linarith
        · norm_num
          linarith

/-- The digits behind a held number make less than one of its units. -/
theorem fraction_bounds (areDigits : ∀ character ∈ digits, character.isDigit) (held scale : Nat) :
    let value : ℚ := Nat.ofDigitChars 10 digits held / 10 ^ (scale + (digits.length + 1))
    (held : ℚ) / 10 ≤ value * 10 ^ scale ∧ value * 10 ^ scale < (held + 1) / 10 := by
  intro value
  have above := Numeral.power_mul_le_ofDigitChars digits held
  have below := Numeral.ofDigitChars_lt areDigits held
  have shifted : value * 10 ^ scale =
      Nat.ofDigitChars 10 digits held / 10 ^ digits.length / 10 := by
    simp only [value]
    rw [pow_add, pow_succ]
    field_simp
  rw [shifted]
  constructor
  · apply div_le_div_of_nonneg_right _ (by norm_num)
    rw [le_div_iff₀' (by positivity)]
    exact_mod_cast above
  · apply div_lt_div_of_pos_right _ (by norm_num)
    rw [div_lt_iff₀' (by positivity)]
    exact_mod_cast below

/-- Digits behind the point are taken up while there is room for them, and the first one for
which there is none rounds. -/
theorem finish?_roundsTo (areDigits : ∀ character ∈ digits, character.isDigit)
    (fits : coefficient < 2 ^ 96) (places : scale ≤ 28) :
    RoundsTo (Nat.ofDigitChars 10 digits coefficient / 10 ^ (scale + digits.length))
      ((Progress.mk coefficient scale true true).finish? digits) := by
  induction digits generalizing coefficient scale with
  | nil =>
    refine ⟨fits, places, isRounded_self ?_⟩
    exact div_mul_cancel₀ _ (by positivity)
  | cons character others inductionHypothesis =>
    have digit := areDigits character (by simp)
    have otherDigits : ∀ other ∈ others, other.isDigit :=
      fun other member => areDigits other (by simp [member])
    obtain ⟨low, high⟩ := fraction_bounds otherDigits
      (10 * coefficient + (character.toNat - '0'.toNat)) scale
    have rounding (full : scale = 28 ∨
        2 ^ 96 ≤ 10 * coefficient + (character.toNat - '0'.toNat)) :=
      rounded?_roundsTo otherDigits fits places full (Numeral.digit_lt digit) low high
    rw [Nat.ofDigitChars_cons, List.length_cons]
    by_cases all : scale = 28
    · rw [finish?_settled _ digit all]
      exact rounding (.inl all)
    · rw [finish?_step _ digit all]
      split
      · next room =>
        rw [← Nat.add_assoc, Nat.add_right_comm]
        exact inductionHypothesis otherDigits room (by omega)
      · next full => exact rounding (.inr (Nat.le_of_not_lt full))

/-- Digits in front of the point are refused if their number does not fit. -/
theorem finish?_overflow (rest : List Char) {started : Bool}
    (areDigits : ∀ character ∈ digits, character.isDigit) (fits : coefficient < 2 ^ 96)
    (large : 2 ^ 96 ≤ Nat.ofDigitChars 10 digits coefficient) :
    (Progress.mk coefficient 0 false started).finish? (digits ++ rest) = Option.none := by
  induction digits generalizing coefficient started with
  | nil => exact absurd fits (Nat.not_lt_of_le large)
  | cons character others inductionHypothesis =>
    rw [Nat.ofDigitChars_cons] at large
    rw [List.cons_append, finish?_step _ (areDigits character (by simp))
      (Nat.ne_of_lt (Nat.zero_lt_succ 27))]
    split
    · next room =>
      exact inductionHypothesis (fun other member => areDigits other (by simp [member])) room large
    · rfl

end Digits

end Progress

section Reading

/-- Digits, and behind them a point with others if there are others. -/
def positional (whole fraction : List Char) : List Char :=
  whole ++ if fraction = [] then [] else '.' :: fraction

/-- The number that the digits around a point make. -/
def positionalValue (whole fraction : List Char) : ℚ :=
  Nat.ofDigitChars 10 (whole ++ fraction) 0 / 10 ^ fraction.length

/-- A decimal stands for a value behind a sign: it is the value rounded, and has the sign unless
nothing is left of the value. -/
structure StandsFor (decimal : Decimal) (negative : Bool) (value : ℚ) : Prop where
  sign : decimal.coefficient ≠ 0 → decimal.negative = negative
  rounded : IsRounded value decimal.coefficient decimal.scale

variable {whole fraction : List Char} (nonempty : whole ≠ [])
  (areDigits : ∀ character ∈ whole ++ fraction, character.isDigit)

include nonempty areDigits

/-- Positional digits are rounded to parts, unless they make too large a number. -/
theorem finish?_positional :
    RoundsTo (positionalValue whole fraction)
      (Progress.none.finish? (positional whole fraction)) := by
  have wholeDigits : ∀ character ∈ whole, character.isDigit :=
    fun character member => areDigits character (List.mem_append_left _ member)
  have fractionDigits : ∀ character ∈ fraction, character.isDigit :=
    fun character member => areDigits character (List.mem_append_right _ member)
  have started : (false || !whole.isEmpty) = true := by simp [nonempty]
  rw [positionalValue, Nat.ofDigitChars_append, positional, Progress.none]
  by_cases room : Nat.ofDigitChars 10 whole 0 < 2 ^ 96
  · rw [Progress.finish?_whole whole _ 0 false wholeDigits room, started]
    by_cases none : fraction = []
    · rw [if_pos none, none, Progress.finish?]
      exact ⟨room, Nat.zero_le _, isRounded_self (by simp)⟩
    · have behind := Progress.finish?_roundsTo fractionDigits room (Nat.zero_le 28)
      rw [Nat.zero_add] at behind
      rw [if_neg none, Progress.finish?]
      exact behind
  · have large := Nat.le_of_not_lt room
    have above := Numeral.power_mul_le_ofDigitChars fraction (Nat.ofDigitChars 10 whole 0)
    have raised : (2 ^ 96 : ℚ) ≤
        Nat.ofDigitChars 10 fraction (Nat.ofDigitChars 10 whole 0) / 10 ^ fraction.length := by
      rw [le_div_iff₀' (by positivity)]
      exact_mod_cast (Nat.mul_le_mul_left _ large).trans above
    rw [Progress.finish?_overflow _ wholeDigits (by decide) large]
    change (2 ^ 96 - 1 / 2 : ℚ) ≤ _
    linarith

/-- Positional digits behind a sign are refused if they make too large a number, and otherwise
stand for the number that they make. -/
theorem read?_positional (negative : Bool) :
    2 ^ 96 - 1 / 2 ≤ positionalValue whole fraction ∧
        read? (signed negative (positional whole fraction)) = none ∨
      ∃ decimal, read? (signed negative (positional whole fraction)) = some decimal ∧
        decimal.StandsFor negative (positionalValue whole fraction) := by
  have rounds := finish?_positional nonempty areDigits
  have unsigned : read? (signed negative (positional whole fraction)) =
      readMagnitude? negative (positional whole fraction) := by
    obtain ⟨first, rest, written⟩ := List.exists_cons_of_ne_nil nonempty
    have digit := areDigits first (by simp [written])
    rw [positional, written, List.cons_append, read?_signed negative _ digit]
  rw [unsigned, readMagnitude?]
  cases found : Progress.none.finish? (positional whole fraction) with
  | none =>
    rw [found] at rounds
    exact .inl ⟨rounds, rfl⟩
  | some parts =>
    rw [found] at rounds
    obtain ⟨fits, places, rounded⟩ := rounds
    refine .inr ⟨⟨negative && parts.1 != 0, parts.1, parts.2, fits, places⟩,
      dif_pos ⟨fits, places⟩, ?_, rounded⟩
    intro some
    simp only [bne_iff_ne.mpr some, Bool.and_true]

end Reading

namespace StandsFor

variable {decimal : Decimal} {negative : Bool} {value : ℚ}
  (stands : decimal.StandsFor negative value)

include stands

/-- What stands for a value behind a sign has the sign, and the size that was left. -/
theorem value_eq :
    decimal.value =
      (if negative then -1 else 1) * (decimal.coefficient / 10 ^ decimal.scale) := by
  rw [Decimal.value]
  by_cases none : decimal.coefficient = 0
  · simp [none]
  · rw [stands.sign none]

/-- What stands for a value that some decimal has is that value. -/
theorem exact (size : IsSize value) : decimal.value = (if negative then -1 else 1) * value := by
  rw [stands.value_eq, stands.rounded.exact size]

/-- Moving the point to the left rounds once more, where there are not enough places. -/
theorem shiftLeft? {places : Nat} (few : places ≤ 28) :
    ∃ lowered, decimal.shiftLeft? places = some lowered ∧
      lowered.StandsFor negative (decimal.coefficient / 10 ^ decimal.scale / 10 ^ places) := by
  have held := decimal.scale_le
  rw [Decimal.shiftLeft?, if_neg (show ¬maxScale < places from Nat.not_lt_of_le few), div_div,
    ← pow_add]
  split
  · next room =>
    refine ⟨⟨decimal.negative, decimal.coefficient, decimal.scale + places,
      decimal.coefficient_lt, room⟩, dif_pos ⟨decimal.coefficient_lt, room⟩, stands.sign, ?_⟩
    exact isRounded_self (div_mul_cancel₀ _ (by positivity))
  · next full =>
    change ¬decimal.scale + places ≤ 28 at full
    obtain ⟨lost, total⟩ : ∃ lost, decimal.scale + places = lost + 1 + 28 :=
      ⟨decimal.scale + places - 29, by omega⟩
    have digits : lost + 1 + 28 - maxScale = lost + 1 := Nat.add_sub_cancel _ _
    have smaller : (decimal.coefficient + 5 * 10 ^ lost) / 10 ^ (lost + 1) ≤
        decimal.coefficient := by
      have positive : 0 < 10 ^ lost := Nat.pow_pos (by decide)
      have grown : decimal.coefficient ≤ 10 ^ lost * decimal.coefficient :=
        Nat.le_mul_of_pos_left _ positive
      rw [← Nat.lt_succ_iff, Nat.div_lt_iff_lt_mul (Nat.pow_pos (by decide)), pow_succ]
      nlinarith
    have bounds : (decimal.coefficient + 5 * 10 ^ lost) / 10 ^ (lost + 1) < 2 ^ 96 ∧
        maxScale ≤ maxScale := ⟨smaller.trans_lt decimal.coefficient_lt, le_rfl⟩
    simp only [total, digits, Nat.add_sub_cancel]
    refine ⟨⟨decimal.negative, _, maxScale, bounds.1, bounds.2⟩, dif_pos bounds, ?_, ?_⟩
    · intro some
      apply stands.sign
      intro none
      exact some (Nat.le_zero.mp (smaller.trans_eq none))
    · apply isRounded_div
      rw [pow_add]
      field_simp

/-- Moving the point to the right changes no digit, if the digits in front of it fit. -/
theorem shiftRight? {places : Nat} (few : places ≤ 28) (positive : 0 ≤ value)
    (fits : value * 10 ^ places < 2 ^ 96 - 1 / 2) :
    ∃ raised, decimal.shiftRight? places = some raised ∧
      raised.value = decimal.value * 10 ^ places := by
  rw [Decimal.shiftRight?]
  by_cases within : places ≤ decimal.scale
  · obtain ⟨left, total⟩ := Nat.exists_eq_add_of_le within
    rw [if_pos within, total, Nat.add_sub_cancel_left]
    have bounds : decimal.coefficient < 2 ^ 96 ∧ left ≤ maxScale := by
      have held := decimal.scale_le
      exact ⟨decimal.coefficient_lt, show left ≤ 28 by omega⟩
    refine ⟨⟨decimal.negative, decimal.coefficient, left, bounds.1, bounds.2⟩, dif_pos bounds, ?_⟩
    rw [Decimal.value, Decimal.value, total, pow_add]
    field_simp
  · have beyond := Nat.lt_of_not_le within
    have finer : value * 10 ^ (decimal.scale + 1) ≤ value * 10 ^ places :=
      mul_le_mul_of_nonneg_left (pow_le_pow_right₀ (by norm_num) beyond) positive
    have kept : value * 10 ^ decimal.scale = decimal.coefficient := by
      rcases stands.rounded.finest with all | kept | full
      · omega
      · exact kept
      · linarith
    have raised : ((decimal.coefficient * 10 ^ (places - decimal.scale) : Nat) : ℚ) =
        value * 10 ^ places := by
      rw [Nat.cast_mul, ← kept, Nat.cast_pow, mul_assoc, Nat.cast_ofNat, ← pow_add,
        Nat.add_sub_cancel' beyond.le]
    have bounds : decimal.coefficient * 10 ^ (places - decimal.scale) < 2 ^ 96 ∧
        0 ≤ maxScale := by
      refine ⟨?_, Nat.zero_le _⟩
      rw [← @Nat.cast_lt ℚ, raised]
      push_cast
      linarith
    rw [if_neg within, if_neg (show ¬maxScale < places from Nat.not_lt_of_le few)]
    refine ⟨⟨decimal.negative, _, 0, bounds.1, bounds.2⟩, dif_pos bounds, ?_⟩
    rw [Decimal.value, Decimal.value, raised, ← kept, pow_zero, div_one,
      mul_div_cancel_right₀ _ (by positivity), mul_assoc]

end StandsFor

/-- The point of a decimal is not moved to where it would exceed all decimals. -/
theorem shiftRight?_of_exceeding {decimal : Decimal} {places : Nat}
    (exceeds : 2 ^ 96 - 1 < |decimal.value| * 10 ^ places) : decimal.shiftRight? places = none := by
  have most : (decimal.coefficient : ℚ) + 1 ≤ 2 ^ 96 := by exact_mod_cast decimal.coefficient_lt
  rw [abs_value] at exceeds
  rw [Decimal.shiftRight?]
  split
  · next within =>
    have lowered : (10 : ℚ) ^ places ≤ 10 ^ decimal.scale :=
      pow_le_pow_right₀ (by norm_num) within
    have below : (decimal.coefficient : ℚ) / 10 ^ decimal.scale * 10 ^ places ≤
        decimal.coefficient := by
      rw [div_mul_eq_mul_div]
      exact div_le_of_le_mul₀ (by positivity) (Nat.cast_nonneg _)
        (mul_le_mul_of_nonneg_left lowered (Nat.cast_nonneg _))
    linarith
  · next beyond =>
    split
    · rfl
    · apply dif_neg
      rintro ⟨fits, _⟩
      have raised : (decimal.coefficient : ℚ) / 10 ^ decimal.scale * 10 ^ places =
          (decimal.coefficient * 10 ^ (places - decimal.scale) : Nat) := by
        rw [Nat.cast_mul, Nat.cast_pow, Nat.cast_ofNat, pow_sub₀ _ (by norm_num)
          (Nat.le_of_not_le beyond)]
        field_simp
      have fits : ((decimal.coefficient * 10 ^ (places - decimal.scale) : Nat) : ℚ) + 1 ≤
          2 ^ 96 := by exact_mod_cast fits
      linarith

/-- Every decimal stands for itself. -/
theorem standsFor_self (decimal : Decimal) :
    decimal.StandsFor decimal.negative |decimal.value| where
  sign := fun _ => rfl
  rounded := by
    apply isRounded_self
    rw [abs_value, div_mul_cancel₀ _ (by positivity)]

/-- The size of a decimal is one with its point moved to the right too, if the digits in front of
the point fit. -/
theorem IsSize.raised {value : ℚ} {places : Nat} (size : IsSize value) (few : places ≤ 28)
    (fits : value * 10 ^ places < 2 ^ 96 - 1 / 2) : IsSize (value * 10 ^ places) := by
  obtain ⟨decimal, rfl⟩ := size
  obtain ⟨raised, _, same⟩ := decimal.standsFor_self.shiftRight? few (abs_nonneg _) fits
  refine ⟨raised, ?_⟩
  rw [same, abs_mul, abs_of_nonneg (show (0 : ℚ) ≤ 10 ^ places by positivity)]

end ExchangeWallet.Decimal
