/-!
# Binary floating-point numbers of 64 bits

A finite number is a sign and a magnitude `significand · 2 ^ shift`, counted in
the least positive quantum `2 ^ -1074`. The proof fields make the form unique:
a significand has at most 53 bits, and fewer than 53 only when nothing is
shifted. Infinities and not-a-number values have no place here; an operation
whose result is too large gives `none`.

All arithmetic is exact arithmetic on natural numbers followed by one rounding
to the nearest number, a tie going to the even significand.
-/
namespace ExchangeWallet

-- The power of natural exponents, also where another one is in scope.
attribute [local instance (high)] instPowNat

/-- A finite binary floating-point number. -/
structure Binary64 where
  /-- The sign, which zero has too. -/
  negative : Bool
  /-- The digits of the magnitude in base two. -/
  significand : Nat
  /-- How far the significand is shifted above the least quantum. -/
  shift : Nat
  significand_lt : significand < 2 ^ (53 : Nat)
  shift_le : shift ≤ 2045
  normal : shift = 0 ∨ 2 ^ (52 : Nat) ≤ significand
deriving DecidableEq

namespace Binary64

/-- The magnitude as a count of the least quantum. -/
def units (number : Binary64) : Nat :=
  number.significand * 2 ^ number.shift

/-- How many least quanta make one. -/
def unitsPerOne : Nat :=
  2 ^ (1074 : Nat)

/-- Zero with the given sign. -/
def zero (negative : Bool) : Binary64 :=
  ⟨negative, 0, 0, by decide, by decide, Or.inl rfl⟩

/-- The integer nearest to a quotient, the even one of two equally near. -/
def roundHalfEven (numerator denominator : Nat) : Nat :=
  let quotient := numerator / denominator
  let twice := 2 * (numerator % denominator)
  if twice < denominator ∨ (twice = denominator ∧ quotient % 2 = 0) then quotient
  else quotient + 1

/-- Rounding goes to one of the two integers around the quotient. -/
theorem div_le_roundHalfEven (numerator denominator : Nat) :
    numerator / denominator ≤ roundHalfEven numerator denominator := by
  unfold roundHalfEven
  grind

/-- The shift that leaves the integer part of a quantum count 53 bits. -/
def shiftFor (quanta : Nat) : Nat :=
  quanta.log2 - 52

/-- A positive shift leaves a full significand. -/
theorem shiftFor_full (quanta : Nat) :
    shiftFor quanta = 0 ∨ 2 ^ (52 : Nat) ≤ quanta / 2 ^ shiftFor quanta := by
  unfold shiftFor
  by_cases small : quanta.log2 ≤ 52
  · exact Or.inl (by omega)
  · right
    have nonzero : quanta ≠ 0 := by
      intro isZero
      simp [isZero] at small
    have power : 2 ^ (52 : Nat) * 2 ^ (quanta.log2 - 52) = 2 ^ quanta.log2 := by
      rw [← Nat.pow_add]
      congr 1
      omega
    rw [Nat.le_div_iff_mul_le (Nat.two_pow_pos _), power]
    exact Nat.log2_self_le nonzero

/-- The number nearest to `numerator / denominator`, with the given sign. -/
def nearest (negative : Bool) (numerator denominator : Nat) : Option Binary64 :=
  let quanta := numerator * unitsPerOne
  let shift := shiftFor (quanta / denominator)
  let rounded := roundHalfEven quanta (denominator * 2 ^ shift)
  if narrow : rounded < 2 ^ (53 : Nat) then
    if fits : shift ≤ 2045 then
      some ⟨negative, rounded, shift, narrow, fits, by
        refine (shiftFor_full (quanta / denominator)).imp_right fun full => ?_
        refine Nat.le_trans ?_ (div_le_roundHalfEven quanta (denominator * 2 ^ shift))
        rw [← Nat.div_div_eq_div_mul]
        exact full⟩
    else none
  else
    if fits : shift + 1 ≤ 2045 then
      some ⟨negative, 2 ^ (52 : Nat), shift + 1, by decide, fits, Or.inr (Nat.le_refl _)⟩
    else none

/-- The number nearest to a natural number. -/
def ofNat? (number : Nat) : Option Binary64 :=
  nearest false number 1

/-- The rounded product. -/
def mul? (left right : Binary64) : Option Binary64 :=
  nearest (left.negative != right.negative) (left.units * right.units)
    (unitsPerOne * unitsPerOne)

/-- The rounded quotient. The divisor is to be different from zero. -/
def div? (left right : Binary64) : Option Binary64 :=
  nearest (left.negative != right.negative) left.units right.units

/-- The same magnitude with the given sign. -/
def withSign (negative : Bool) (number : Binary64) : Binary64 :=
  { number with negative := negative }

/-- The integer part: the fraction is dropped. -/
def truncate (number : Binary64) : Int :=
  let whole : Int := (number.units / unitsPerOne : Nat)
  if number.negative then -whole else whole

/-- The largest power of ten that can be represented. -/
def maxPowerOfTen : Nat :=
  308

/-- The quotient of a number and the rounded `10 ^ power`. Powers beyond the
representable ones are taken in steps of the largest, each step rounded. -/
def divPowerOfTen? (number : Binary64) (power : Nat) : Option Binary64 :=
  if power ≤ maxPowerOfTen then do
    number.div? (← ofNat? (10 ^ power))
  else if number.units = 0 then some number
  else do
    let quotient ← number.div? (← ofNat? (10 ^ maxPowerOfTen))
    divPowerOfTen? quotient (power - maxPowerOfTen)
termination_by power
decreasing_by simp only [maxPowerOfTen] at *; omega

/-- The product of a number and the rounded `10 ^ power`. -/
def mulPowerOfTen? (number : Binary64) (power : Nat) : Option Binary64 :=
  if power ≤ maxPowerOfTen then do
    number.mul? (← ofNat? (10 ^ power))
  else if number.units = 0 then some number
  else none

/-- A significand taken as a number first and scaled by a power of ten second.
Both steps round, so the result need not be the number nearest to the exact
value. -/
def scaled? (negative : Bool) (significand : Nat) (exponent : Int) : Option Binary64 := do
  let start ← ofNat? significand
  let magnitude ← match exponent with
    | .ofNat power => start.mulPowerOfTen? power
    | .negSucc power => start.divPowerOfTen? (power + 1)
  return magnitude.withSign negative

end Binary64

end ExchangeWallet
