import ExchangeWallet.Numeral
/-!
# Fixed-point decimals

A decimal is a sign, a coefficient of at most 96 bits and a scale of at most 28
places. The scale is part of the value as written: `1.50` and `1.5` are equal
amounts and different decimals. The normal form drops the zeros at the end of a
fraction and the sign of zero, so that equal amounts have one normal form.

A zero with a minus sign can be represented. Reading never makes one, rounding a
small negative amount away does.
-/
namespace ExchangeWallet

-- The power of natural exponents, also where another one is in scope.
attribute [local instance (high)] instPowNat

/-- The decimal `± coefficient / 10 ^ scale`. -/
structure Decimal where
  negative : Bool
  coefficient : Nat
  scale : Nat
  coefficient_lt : coefficient < 2 ^ (96 : Nat)
  scale_le : scale ≤ 28
deriving DecidableEq

namespace Decimal

/-- The most places a fraction can have. -/
def maxScale : Nat :=
  28

/-- Zero without places. -/
def zero : Decimal :=
  ⟨false, 0, 0, by decide, by decide⟩

instance : Inhabited Decimal :=
  ⟨zero⟩

/-- The decimal with these parts, if they are within bounds. -/
def ofParts? (negative : Bool) (coefficient scale : Nat) : Option Decimal :=
  if bounds : coefficient < 2 ^ (96 : Nat) ∧ scale ≤ maxScale then
    some ⟨negative, coefficient, scale, bounds.1, bounds.2⟩
  else none

/-- Drops zeros from the end of a coefficient, at most as many as there are
places. Gives the rest and the places left. -/
def trimZeros (coefficient : Nat) : Nat → Nat × Nat
  | 0 => (coefficient, 0)
  | scale + 1 =>
    if coefficient % 10 = 0 then trimZeros (coefficient / 10) scale
    else (coefficient, scale + 1)

/-- Trimming makes nothing larger. -/
theorem trimZeros_le (coefficient scale : Nat) :
    (trimZeros coefficient scale).1 ≤ coefficient ∧ (trimZeros coefficient scale).2 ≤ scale := by
  induction scale generalizing coefficient with
  | zero => simp [trimZeros]
  | succ scale inductionHypothesis =>
    unfold trimZeros
    split
    · obtain ⟨smaller, fewer⟩ := inductionHypothesis (coefficient / 10)
      exact ⟨Nat.le_trans smaller (Nat.div_le_self _ _), Nat.le_succ_of_le fewer⟩
    · simp

/-- The normal form: no zero at the end of a fraction and no sign on zero. -/
def normalize (decimal : Decimal) : Decimal :=
  let bounds := trimZeros_le decimal.coefficient decimal.scale
  { negative := decimal.negative && decimal.coefficient != 0
    coefficient := (trimZeros decimal.coefficient decimal.scale).1
    scale := (trimZeros decimal.coefficient decimal.scale).2
    coefficient_lt := Nat.lt_of_le_of_lt bounds.1 decimal.coefficient_lt
    scale_le := Nat.le_trans bounds.2 decimal.scale_le }

/-- The digits of the coefficient, with zeros in front so that at least one digit
stands before the point. -/
def digits (decimal : Decimal) : List Char :=
  let significant := Numeral.naturalText decimal.coefficient
  List.replicate (decimal.scale + 1 - significant.length) '0' ++ significant

/-- The positional text: every place of the scale is written, and no exponent. -/
def text (decimal : Decimal) : List Char :=
  let whole := decimal.digits.length - decimal.scale
  let magnitude :=
    if decimal.scale = 0 then decimal.digits
    else decimal.digits.take whole ++ '.' :: decimal.digits.drop whole
  if decimal.negative then '-' :: magnitude else magnitude

instance : ToString Decimal :=
  ⟨fun decimal => String.ofList decimal.text⟩

end Decimal

end ExchangeWallet
