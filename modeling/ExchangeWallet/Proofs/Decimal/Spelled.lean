import ExchangeWallet.Proofs.Decimal.Rounding
import ExchangeWallet.Proofs.Json.Literal
/-!
# Spelled decimals

A written number is read as a decimal in two steps: its digits around the point first, and the
exponent moves the point of what was read. Both steps have limits of their own. The digits by
themselves may make too large a number, or one of which nothing is left; and no exponent moves
the point by more than twenty-eight places. So a number that a decimal could hold may be lost by
the way in which it is spelled.

What is read can be told from the spelling. A number in the range of decimals is lost exactly if
its spelling is out of reach, and one that a decimal can hold is kept exactly if a decimal can
also hold the digits in front of its exponent. Numbers as they are printed are always within reach:
with few digits, and one of them in front of the point, an exponent is nearly the size.
-/
namespace ExchangeWallet.Json

open Decimal (IsSize StandsFor isExponentMark positional positionalValue signed)

section Exponents

/-- Moves the point of a decimal as an exponent means. -/
def Exponent.move? (exponent : Exponent) (decimal : Decimal) : Option Decimal :=
  if exponent.size < 2 ^ 32 then
    if exponent.lowers then decimal.shiftLeft? exponent.size
    else decimal.shiftRight? exponent.size
  else none

/-- The mark of an exponent opens it. -/
theorem Exponent.mark_marks (exponent : Exponent) :
    isExponentMark (if exponent.capital then 'E' else 'e') = true := by
  cases exponent.capital <;> rfl

/-- Digits that have no minus sign in front of them move the point to the right. -/
theorem movePoint?_unsigned {text : List Char} (unsigned : text.head? ≠ some '-')
    (decimal : Decimal) :
    decimal.movePoint? text =
      (Numeral.naturalBelow? (2 ^ 32) text).bind decimal.shiftRight? := by
  unfold Decimal.movePoint?
  split
  · exact absurd rfl unsigned
  · rfl

/-- The text of an exponent behind its mark is read as it is meant. -/
theorem Exponent.movePoint?_text (exponent : Exponent) (decimal : Decimal) :
    decimal.movePoint? (exponent.sign.text ++ exponent.digits) = exponent.move? decimal := by
  obtain ⟨plain, plus⟩ := Numeral.naturalBelow?_digits (2 ^ 32) exponent.nonempty
    exponent.areDigits
  rw [move?, lowers, size]
  cases sign : exponent.sign with
  | minus =>
    change (Numeral.naturalBelow? (2 ^ 32) exponent.digits).bind decimal.shiftLeft? = _
    rw [plain]
    split <;> rfl
  | plus =>
    rw [movePoint?_unsigned (by simp [ExponentSign.text])]
    change (Numeral.naturalBelow? (2 ^ 32) ('+' :: exponent.digits)).bind _ = _
    rw [plus]
    split <;> rfl
  | absent =>
    rw [movePoint?_unsigned]
    · change (Numeral.naturalBelow? (2 ^ 32) exponent.digits).bind _ = _
      rw [plain]
      split <;> rfl
    · intro leading
      exact absurd (exponent.areDigits '-' (List.mem_of_mem_head? leading)) (by decide)

/-- An exponent that is too large by itself moves no point. -/
theorem Exponent.move?_of_large {exponent : Exponent} (large : 28 < exponent.size)
    (decimal : Decimal) : exponent.move? decimal = none := by
  have few := decimal.scale_le
  rw [move?]
  split
  · split
    · rw [Decimal.shiftLeft?, if_pos (show Decimal.maxScale < exponent.size from large)]
    · rw [Decimal.shiftRight?, if_neg (by omega),
        if_pos (show Decimal.maxScale < exponent.size from large)]
  · rfl

/-- An exponent that is not too large moves the point to its side. -/
theorem Exponent.move?_of_few {exponent : Exponent} (few : exponent.size ≤ 28)
    (decimal : Decimal) :
    exponent.move? decimal =
      if exponent.lowers then decimal.shiftLeft? exponent.size
      else decimal.shiftRight? exponent.size :=
  if_pos (few.trans_lt (by decide))

variable {exponent : Exponent} {decimal : Decimal} {negative : Bool} {value : ℚ}

/-- A decimal is what the exponent makes of another one, which stands for a value. Nothing is lost
on the way of which something was left; and the value moved by the exponent, if a decimal can
hold it, is kept exactly if a decimal can also hold the value itself. -/
structure Exponent.Moves (exponent : Exponent) (decimal : Decimal) (negative : Bool) (value : ℚ)
    (moved : Decimal) : Prop where
  move : exponent.move? decimal = some moved
  zero : moved.value = 0 ↔ decimal.value = 0
  exact : IsSize (value * 10 ^ exponent.value) →
    (moved.value = (if negative then -1 else 1) * (value * 10 ^ exponent.value) ↔ IsSize value)

/-- The point moves to the left. What is still in range behind that was so large before that less
than half of it has been rounded away. -/
theorem Exponent.moves_of_lowers (lowers : exponent.lowers = true) (few : exponent.size ≤ 28)
    (stands : decimal.StandsFor negative value) (positive : 0 ≤ value)
    (least : 1 / 10 ^ 28 ≤ value * 10 ^ exponent.value) (held : value < 2 ^ 96 - 1 / 2) :
    ∃ moved, exponent.Moves decimal negative value moved := by
  have power : value * 10 ^ exponent.value = value / 10 ^ exponent.size := by
    rw [Exponent.value, if_pos lowers, zpow_neg, zpow_natCast, ← div_eq_mul_inv]
  obtain ⟨lowered, move, remains⟩ := stands.shiftLeft? few
  rw [power] at least
  have shrunk : value / 10 ^ exponent.size ≤ value :=
    div_le_self positive (one_le_pow₀ (by norm_num))
  have some : decimal.coefficient ≠ 0 := by
    rw [ne_eq, stands.rounded.coefficient_eq_zero_iff positive decimal.scale_le]
    norm_num at least shrunk ⊢
    linarith
  have half := div_le_div_of_nonneg_right (stands.rounded.half_le some)
    (show (0 : ℚ) ≤ 10 ^ exponent.size by positivity)
  rw [div_right_comm] at half
  have left : lowered.coefficient ≠ 0 := by
    rw [ne_eq, remains.rounded.coefficient_eq_zero_iff (by positivity) lowered.scale_le]
    norm_num at least half ⊢
    linarith
  refine ⟨lowered, ⟨?_, ?_, ?_⟩⟩
  · rw [move?_of_few few, if_pos lowers, move]
  · rw [lowered.value_eq_zero_iff, decimal.value_eq_zero_iff, iff_false_left left]
    exact some
  · intro size
    rw [power] at size ⊢
    have whole : IsSize value := by
      have back : value / 10 ^ exponent.size * 10 ^ exponent.size = value :=
        div_mul_cancel₀ _ (by positivity)
      rw [← back] at held ⊢
      exact size.raised few held
    rw [stands.rounded.exact whole] at remains
    exact iff_of_true (remains.exact size) whole

/-- The point moves to the right, where there is room for the digits in front of it. -/
theorem Exponent.moves_of_raises (raises : exponent.lowers = false) (few : exponent.size ≤ 28)
    (stands : decimal.StandsFor negative value) (positive : 0 ≤ value)
    (most : value * 10 ^ exponent.value ≤ 2 ^ 96 - 1) :
    ∃ moved, exponent.Moves decimal negative value moved := by
  have power : value * 10 ^ exponent.value = value * 10 ^ exponent.size := by
    rw [Exponent.value, raises, if_neg Bool.false_ne_true, zpow_natCast]
  have nonzero : (10 : ℚ) ^ exponent.size ≠ 0 := by positivity
  rw [power] at most
  obtain ⟨raised, move, same⟩ := stands.shiftRight? few positive (by linarith)
  refine ⟨raised, ⟨?_, ?_, ?_⟩⟩
  · rw [move?_of_few few, raises, if_neg Bool.false_ne_true, move]
  · rw [same, mul_eq_zero, or_iff_left nonzero]
  · intro _
    rw [power, same, ← mul_assoc, mul_left_inj' nonzero]
    constructor
    · intro kept
      refine ⟨decimal, ?_⟩
      rw [kept, abs_mul, abs_of_nonneg positive]
      cases negative <;> simp
    · exact stands.exact

end Exponents

namespace Literal

variable (literal : Literal)

/-- The digits in front of the exponent. -/
def baseText : List Char :=
  signed literal.negative (positional literal.whole literal.fraction)

/-- The text of a number is its base and its exponent. -/
theorem text_eq_base : literal.text = literal.baseText ++ literal.exponentText := by
  rw [text, behindWhole, baseText, positional]
  cases literal.negative <;> simp [signed]

/-- The size of the base is what its digits make. -/
theorem abs_base : |literal.base.value| = positionalValue literal.whole literal.fraction := by
  have power : literal.base.power = -(literal.fraction.length : Int) := zero_sub _
  rw [abs_value, power, zpow_neg, zpow_natCast, ← div_eq_mul_inv]
  rfl

/-- The base begins with a digit and goes on with digits and a point. -/
theorem positional_opening :
    ∃ first rest, positional literal.whole literal.fraction = first :: rest ∧ first.isDigit ∧
      ∀ character ∈ rest, character.isDigit ∨ character = '.' := by
  have areDigits := literal.areDigits
  obtain ⟨first, others, written⟩ := List.exists_cons_of_ne_nil literal.nonempty
  rw [written] at areDigits
  refine ⟨first, others ++ if literal.fraction = [] then [] else '.' :: literal.fraction, ?_,
    areDigits first (by simp), ?_⟩
  · rw [positional, written]
    rfl
  · intro character member
    rcases List.mem_append.mp member with whole | behind
    · exact .inl (areDigits character (by simp [whole]))
    · split at behind
      · cases behind
      · rcases List.mem_cons.mp behind with point | fraction
        · exact .inr point
        · exact .inl (areDigits character (by simp [fraction]))

/-- Nothing in the base opens an exponent. -/
theorem unmarked_baseText : ∀ character ∈ literal.baseText, isExponentMark character = false := by
  obtain ⟨first, rest, written, digit, plain⟩ := literal.positional_opening
  have unsigned : ∀ character ∈ positional literal.whole literal.fraction,
      character.isDigit ∨ character = '.' := by
    rw [written, List.forall_mem_cons]
    exact ⟨.inl digit, plain⟩
  intro character member
  apply Decimal.isExponentMark_of_plain
  rw [baseText, signed] at member
  split at member
  · rcases List.mem_cons.mp member with minus | behind
    · exact .inr (.inr minus)
    · exact (unsigned character behind).imp_right .inl
  · exact (unsigned character member).imp_right .inl

/-- A number without an exponent is read as its base. -/
theorem ofText_of_plain (plain : literal.exponent = none) :
    Decimal.ofText literal.text = (Decimal.read? literal.baseText).getD Decimal.zero := by
  have text : literal.text = literal.baseText := by
    rw [text_eq_base, exponentText, plain]
    exact List.append_nil _
  have noMark : Decimal.readScientific? literal.baseText = none := by
    have passed : literal.baseText.dropWhile (fun character => !isExponentMark character) = [] := by
      apply List.dropWhile_eq_nil_iff.mpr
      intro character member
      rw [literal.unmarked_baseText character member]
      rfl
    rw [Decimal.readScientific?, passed]
  rw [text, Decimal.ofText, noMark, Option.or_none]

/-- An exponent moves the point of the base. -/
theorem ofText_of_exponent {exponent : Exponent} (written : literal.exponent = some exponent) :
    Decimal.ofText literal.text =
      ((Decimal.read? literal.baseText).bind exponent.move?).getD Decimal.zero := by
  have text : literal.text = literal.baseText ++ exponent.text := by
    rw [text_eq_base, exponentText, written]
    rfl
  have notPositional : Decimal.read? literal.text = none := by
    obtain ⟨first, rest, opening, digit, _⟩ := literal.positional_opening
    rw [text, baseText, ← Decimal.signed_append, opening, List.cons_append,
      Decimal.read?_signed _ _ digit]
    apply Decimal.readMagnitude?_of_foreign _ (Decimal.isForeign_of_mark exponent.mark_marks).1
    simp [Exponent.text]
  have moved : Decimal.readScientific? literal.text =
      (Decimal.read? literal.baseText).bind exponent.move? := by
    rw [text, Exponent.text, Decimal.readScientific?_of_mark literal.unmarked_baseText
      exponent.mark_marks]
    simp only [exponent.movePoint?_text]
  rw [Decimal.ofText, notPositional, moved, Option.none_or]

/-- The base is refused if it is too large, and otherwise read to what stands for it. -/
theorem read?_baseText :
    2 ^ 96 - 1 / 2 ≤ |literal.base.value| ∧ Decimal.read? literal.baseText = none ∨
      ∃ decimal, Decimal.read? literal.baseText = some decimal ∧
        decimal.StandsFor literal.negative |literal.base.value| := by
  rw [abs_base]
  exact Decimal.read?_positional literal.nonempty literal.areDigits literal.negative

/-- The size of a number is that of its base, raised. -/
theorem abs_value_eq_base : |literal.value| = |literal.base.value| * 10 ^ literal.raise := by
  rw [value_eq_base, abs_mul, abs_of_nonneg (show (0 : ℚ) ≤ 10 ^ literal.raise by positivity)]

/-- A number is its size behind its sign. -/
theorem value_eq_abs : literal.value = (if literal.negative then -1 else 1) * |literal.value| := by
  rw [abs_value]
  rfl

/-- A number is within reach if its exponent is not too large, its digits do not make too large a
number, and something is left of that. -/
structure IsWithinReach : Prop where
  near : ∀ exponent ∈ literal.exponent, exponent.size ≤ 28
  held : |literal.base.value| < 2 ^ 96 - 1 / 2
  visible : 5 / 10 ^ 29 ≤ |literal.base.value|

variable {literal}

/-- A number that is too far or too large by its digits is decoded as zero. -/
theorem ofText_of_far
    (far : ¬((∀ exponent ∈ literal.exponent, exponent.size ≤ 28) ∧
      |literal.base.value| < 2 ^ 96 - 1 / 2)) :
    Decimal.ofText literal.text = Decimal.zero := by
  rcases literal.read?_baseText with ⟨_, refused⟩ | ⟨decimal, read, stands⟩
  · cases written : literal.exponent with
    | none => rw [ofText_of_plain literal written, refused, Option.getD_none]
    | some exponent =>
      rw [ofText_of_exponent literal written, refused, Option.bind_none, Option.getD_none]
  · have held := stands.rounded.value_lt (abs_nonneg _) decimal.coefficient_lt
    cases written : literal.exponent with
    | none => exact absurd ⟨by simp [written], held⟩ far
    | some exponent =>
      have large : 28 < exponent.size := by
        by_contra few
        exact far ⟨by simpa [written] using few, held⟩
      rw [ofText_of_exponent literal written, read, Option.bind_some,
        Exponent.move?_of_large large, Option.getD_none]

/-- A number in range that is neither is decoded as what its exponent makes of its digits. -/
theorem exists_ofText_of_near (near : ∀ exponent ∈ literal.exponent, exponent.size ≤ 28)
    (held : |literal.base.value| < 2 ^ 96 - 1 / 2) (least : 1 / 10 ^ 28 ≤ |literal.value|)
    (most : |literal.value| ≤ 2 ^ 96 - 1) :
    ((Decimal.ofText literal.text).value = 0 ↔ |literal.base.value| < 5 / 10 ^ 29) ∧
      (IsSize |literal.value| →
        ((Decimal.ofText literal.text).value = literal.value ↔ IsSize |literal.base.value|)) := by
  rcases literal.read?_baseText with ⟨large, _⟩ | ⟨decimal, read, stands⟩
  · exact absurd held (not_lt_of_ge large)
  · rw [← stands.rounded.coefficient_eq_zero_iff (abs_nonneg _) decimal.scale_le,
      ← decimal.value_eq_zero_iff]
    rw [abs_value_eq_base] at least most ⊢
    cases written : literal.exponent with
    | none =>
      have raise : literal.raise = 0 := by rw [Literal.raise, written]; rfl
      have same : literal.value = literal.base.value := by rw [value_eq_base, raise]; simp
      rw [ofText_of_plain literal written, read, Option.getD_some, raise, zpow_zero, mul_one]
      refine ⟨Iff.rfl, fun size => iff_of_true ?_ size⟩
      rw [stands.exact size, same]
      exact literal.base.value_eq_abs.symm
    | some exponent =>
      have raise : literal.raise = exponent.value := by rw [Literal.raise, written]; rfl
      have few := near exponent written
      rw [raise] at least most ⊢
      obtain ⟨moved, moves⟩ : ∃ moved,
          exponent.Moves decimal literal.negative |literal.base.value| moved := by
        cases side : exponent.lowers with
        | true => exact Exponent.moves_of_lowers side few stands (abs_nonneg _) least held
        | false => exact Exponent.moves_of_raises side few stands (abs_nonneg _) most
      rw [ofText_of_exponent literal written, read, Option.bind_some, moves.move, Option.getD_some]
      refine ⟨moves.zero, fun size => ?_⟩
      rw [value_eq_abs, abs_value_eq_base, raise]
      exact moves.exact size

/-- A number in the range of decimals is found in its text exactly if it is within reach. -/
theorem value_ofText_ne_zero_iff (least : 1 / 10 ^ 28 ≤ |literal.value|)
    (most : |literal.value| ≤ 2 ^ 96 - 1) :
    (Decimal.ofText literal.text).value ≠ 0 ↔ literal.IsWithinReach := by
  by_cases close : (∀ exponent ∈ literal.exponent, exponent.size ≤ 28) ∧
      |literal.base.value| < 2 ^ 96 - 1 / 2
  · obtain ⟨zero, _⟩ := exists_ofText_of_near close.1 close.2 least most
    rw [ne_eq, zero, not_lt]
    exact ⟨fun visible => ⟨close.1, close.2, visible⟩, fun reach => reach.visible⟩
  · rw [ofText_of_far close]
    constructor
    · intro some
      exact absurd ((Decimal.value_eq_zero_iff _).mpr rfl) some
    · intro reach
      exact absurd ⟨reach.near, reach.held⟩ close

/-- A number that some decimal has is found in its text just as it is exactly if its exponent is
not too large and some decimal has the number of its digits too. -/
theorem value_ofText_eq_iff (size : IsSize |literal.value|) (nonzero : literal.value ≠ 0) :
    (Decimal.ofText literal.text).value = literal.value ↔
      (∀ exponent ∈ literal.exponent, exponent.size ≤ 28) ∧ IsSize |literal.base.value| := by
  obtain ⟨decimal, same⟩ := size
  have some : decimal.value ≠ 0 := by
    rw [← abs_ne_zero, same, abs_ne_zero]
    exact nonzero
  have least := Decimal.le_abs_value some
  have most := decimal.abs_value_le
  rw [same] at least most
  by_cases close : (∀ exponent ∈ literal.exponent, exponent.size ≤ 28) ∧
      |literal.base.value| < 2 ^ 96 - 1 / 2
  · obtain ⟨_, exact⟩ := exists_ofText_of_near close.1 close.2 least most
    rw [exact ⟨decimal, same⟩]
    exact ⟨fun base => ⟨close.1, base⟩, And.right⟩
  · rw [ofText_of_far close, (Decimal.value_eq_zero_iff _).mpr rfl]
    constructor
    · intro zero
      exact absurd zero.symm nonzero
    · rintro ⟨near, base, baseSame⟩
      have held := base.abs_value_le
      rw [baseSame] at held
      exact absurd ⟨near, by linarith⟩ close

/-- A number without an exponent is found in its text just as it is if some decimal has it. -/
theorem value_ofText_of_plain (plain : literal.exponent = none) (size : IsSize |literal.value|) :
    (Decimal.ofText literal.text).value = literal.value := by
  have same : literal.value = literal.base.value := by
    rw [value_eq_base, raise, plain]
    exact mul_one _
  rw [ofText_of_plain literal plain]
  rw [same] at size ⊢
  rcases literal.read?_baseText with ⟨large, _⟩ | ⟨decimal, read, stands⟩
  · obtain ⟨decimal, equal⟩ := size
    have most := decimal.abs_value_le
    rw [equal] at most
    linarith
  · rw [read, Option.getD_some, stands.exact size]
    exact literal.base.value_eq_abs.symm

section Normalized

/-- A number as it is printed. Without an exponent it is not large; with one, it has few digits, the
first of which stands in front of the point and is not zero. -/
structure IsNormalized (literal : Literal) : Prop where
  plain : literal.exponent = none → |literal.value| ≤ 2 ^ 64
  base : literal.exponent ≠ none → 1 ≤ |literal.base.value| ∧ |literal.base.value| < 10
  few : literal.exponent ≠ none → literal.coefficient < 2 ^ 96

namespace IsNormalized

variable (normalized : literal.IsNormalized)

include normalized

/-- Some decimal has the base of a normalized number: there are no more places than digits. -/
theorem isSize_base (some : literal.exponent ≠ none) : IsSize |literal.base.value| := by
  obtain ⟨above, _⟩ := normalized.base some
  have few := normalized.few some
  rw [abs_base, positionalValue, le_div_iff₀ (by positivity), one_mul] at above
  have places : 10 ^ literal.fraction.length ≤ literal.coefficient := by
    rw [coefficient]
    exact_mod_cast above
  have within : literal.fraction.length < 29 :=
    (Nat.pow_lt_pow_iff_right (by decide)).mp ((places.trans_lt few).trans (by decide))
  refine ⟨⟨false, literal.coefficient, literal.fraction.length, few, Nat.le_of_lt_succ within⟩, ?_⟩
  rw [Decimal.abs_value, abs_base]
  rfl

/-- A normalized number in the range of decimals is within reach. Its base is near one, so that its
exponent is nearly its size. -/
theorem isWithinReach (least : 1 / 10 ^ 28 ≤ |literal.value|)
    (most : |literal.value| ≤ 2 ^ 96 - 1) : literal.IsWithinReach := by
  rw [literal.abs_value_eq_base, raise] at least most
  cases written : literal.exponent with
  | none =>
    rw [written, Option.map_none, Option.getD_none, zpow_zero, mul_one] at least most
    refine ⟨by simp [written], ?_, ?_⟩
    · linarith
    · norm_num at least ⊢
      linarith
  | some exponent =>
    obtain ⟨above, below⟩ := normalized.base (by simp [written])
    rw [written, Option.map_some, Option.getD_some] at least most
    have power : (0 : ℚ) < 10 ^ exponent.value := by positivity
    have lower : (-28 : Int) < exponent.value + 1 := by
      have less := least.trans_lt (mul_lt_mul_of_pos_right below power)
      rw [← zpow_one_add₀ (by norm_num), add_comm] at less
      refine (zpow_lt_zpow_iff_right₀ (show (1 : ℚ) < 10 by norm_num)).mp (lt_of_le_of_lt ?_ less)
      norm_num
    have upper : exponent.value < 29 := by
      have less := (mul_le_mul_of_nonneg_right above power.le).trans most
      rw [one_mul] at less
      refine (zpow_lt_zpow_iff_right₀ (show (1 : ℚ) < 10 by norm_num)).mp (less.trans_lt ?_)
      norm_num
    refine ⟨?_, ?_, ?_⟩
    · intro other same
      obtain rfl := Option.some.inj (written.symm.trans same)
      rw [Exponent.value] at lower upper
      cases side : exponent.lowers with
      | true =>
        rw [side, if_pos rfl] at lower
        omega
      | false =>
        rw [side, if_neg Bool.false_ne_true] at upper
        omega
    · linarith
    · norm_num
      linarith

/-- A normalized number is found in its text just as it is if some decimal has it. -/
theorem value_ofText (size : IsSize |literal.value|) :
    (Decimal.ofText literal.text).value = literal.value := by
  by_cases plain : literal.exponent = none
  · exact value_ofText_of_plain plain size
  · obtain ⟨above, _⟩ := normalized.base plain
    have nonzero : literal.value ≠ 0 := by
      rw [← abs_pos, abs_value_eq_base]
      exact mul_pos (by linarith) (by positivity)
    obtain ⟨decimal, same⟩ := size
    have some : decimal.value ≠ 0 := by
      rw [← abs_ne_zero, same, abs_ne_zero]
      exact nonzero
    have least := Decimal.le_abs_value some
    have most := decimal.abs_value_le
    rw [same] at least most
    exact (value_ofText_eq_iff ⟨decimal, same⟩ nonzero).mpr
      ⟨(normalized.isWithinReach least most).near, normalized.isSize_base plain⟩

/-- A normalized number that exceeds all decimals is decoded as zero. It has an exponent, which is
too large by itself or raises its base out of bounds. -/
theorem ofText_of_exceeding (exceeds : 2 ^ 96 - 1 < |literal.value|) :
    Decimal.ofText literal.text = Decimal.zero := by
  cases written : literal.exponent with
  | none =>
    have small := normalized.plain written
    norm_num at small exceeds
    linarith
  | some exponent =>
    have some : literal.exponent ≠ none := by simp [written]
    obtain ⟨_, below⟩ := normalized.base some
    rw [abs_value_eq_base, raise, written, Option.map_some, Option.getD_some] at exceeds
    rw [ofText_of_exponent literal written]
    rcases literal.read?_baseText with ⟨_, refused⟩ | ⟨decimal, read, stands⟩
    · rw [refused, Option.bind_none, Option.getD_none]
    · have same : |decimal.value| = |literal.base.value| := by
        rw [Decimal.abs_value, stands.rounded.exact (normalized.isSize_base some)]
      have refused : exponent.move? decimal = none := by
        by_cases few : exponent.size ≤ 28
        · rw [Exponent.value] at exceeds
          cases side : exponent.lowers with
          | true =>
            rw [side, if_pos rfl, zpow_neg, zpow_natCast, ← div_eq_mul_inv] at exceeds
            have shrunk : |literal.base.value| / 10 ^ exponent.size ≤ |literal.base.value| :=
              div_le_self (abs_nonneg _) (one_le_pow₀ (by norm_num))
            norm_num at exceeds
            linarith
          | false =>
            rw [side, if_neg Bool.false_ne_true, zpow_natCast, ← same] at exceeds
            rw [Exponent.move?_of_few few, side, if_neg Bool.false_ne_true]
            exact Decimal.shiftRight?_of_exceeding exceeds
        · exact Exponent.move?_of_large (Nat.lt_of_not_le few) decimal
      rw [read, Option.bind_some, refused, Option.getD_none]

end IsNormalized

end Normalized

end Literal

end ExchangeWallet.Json
