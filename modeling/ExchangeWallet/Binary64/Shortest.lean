import ExchangeWallet.Numeral
import ExchangeWallet.Binary64.Basic
/-!
# The shortest decimal text of a binary number

A decimal stands for a binary number when it is nearer to it than to any other,
a decimal halfway to a neighbour belonging to the even significand. Among the
decimals that stand for a number, those with the fewest digits are wanted, of
these the nearest, and of two equally near ones the even one.

The search is exact. Decimals are counted in the unit `10 ^ -340`, below every
digit that can matter, so that all comparisons are between natural numbers.

The text is positional from `0.00001` up to below `10 ^ 16` and always has a
fraction; outside it has one digit before the point and a signed exponent.
-/
namespace ExchangeWallet

-- The power of natural exponents, also where another one is in scope.
attribute [local instance (high)] instPowNat

/-- The decimal `coefficient · 10 ^ exponent`. -/
structure Scientific where
  coefficient : Nat
  exponent : Int
deriving DecidableEq

namespace Scientific

/-- Moves the trailing zeros of a nonzero coefficient into the exponent. -/
def stripped (coefficient : Nat) (exponent : Int) : Scientific :=
  if coefficient ≠ 0 ∧ coefficient % 10 = 0 then stripped (coefficient / 10) (exponent + 1)
  else ⟨coefficient, exponent⟩
termination_by coefficient
decreasing_by omega

/-- The text of a nonzero decimal. -/
def text (decimal : Scientific) : List Char :=
  let digits := Numeral.naturalText decimal.coefficient
  let point : Int := decimal.exponent + digits.length
  if -4 ≤ point ∧ point ≤ 16 then
    if point ≤ 0 then
      "0.".toList ++ List.replicate point.natAbs '0' ++ digits
    else if point.natAbs < digits.length then
      digits.take point.natAbs ++ '.' :: digits.drop point.natAbs
    else
      digits ++ List.replicate (point.natAbs - digits.length) '0' ++ ".0".toList
  else
    let fraction := digits.drop 1
    let exponent := point - 1
    digits.take 1 ++ (if fraction = [] then [] else '.' :: fraction) ++
      'e' :: (if exponent < 0 then '-' else '+') :: Numeral.naturalText exponent.natAbs

end Scientific

namespace Binary64

/-- The place below which no digit of a shortest decimal stands: decimals are
counted in `10 ^ -340`. -/
def placesBelowOne : Nat :=
  340

/-- Whether the gap below a number is half the gap above it. -/
def hasNarrowGapBelow (number : Binary64) : Bool :=
  number.significand = 2 ^ (52 : Nat) ∧ number.shift ≠ 0

/-- Whether `coefficient · 10 ^ place`, counted in `10 ^ -340`, stands for the
number. Both sides are multiplied out to quarters of a quantum. -/
def isReadFrom (number : Binary64) (coefficient place : Nat) : Bool :=
  let decimal := coefficient * 10 ^ place * (4 * unitsPerOne)
  let gap := 2 ^ number.shift
  let gapBelow := if number.hasNarrowGapBelow then gap else 2 * gap
  let low := (4 * number.units - gapBelow) * 10 ^ placesBelowOne
  let high := (4 * number.units + 2 * gap) * 10 ^ placesBelowOne
  if number.significand % 2 = 0 then low ≤ decimal && decimal ≤ high
  else low < decimal && decimal < high

/-- The number in the unit `10 ^ -340`, before division by the quanta of one. -/
def dividend (number : Binary64) : Nat :=
  number.units * 10 ^ placesBelowOne

/-- How many digits the number has above `10 ^ -340`. -/
def places (number : Binary64) : Nat :=
  (Numeral.naturalText (number.dividend / unitsPerOne)).length

/-- The decimal with at most `count` digits that stands for the number, if there
is one: only the two neighbours of the number on that grid can. -/
def withDigits? (number : Binary64) (count : Nat) : Option Scientific :=
  let place := number.places - count
  let grid := 10 ^ place * unitsPerOne
  let below := number.dividend / grid
  let twiceRest := 2 * (number.dividend % grid)
  let exponent : Int := place - placesBelowOne
  match number.isReadFrom below place, number.isReadFrom (below + 1) place with
  | true, true =>
    if twiceRest < grid ∨ (twiceRest = grid ∧ below % 2 = 0) then
      some (Scientific.stripped below exponent)
    else some (Scientific.stripped (below + 1) exponent)
  | true, false => some (Scientific.stripped below exponent)
  | false, true => some (Scientific.stripped (below + 1) exponent)
  | false, false => none

/-- The exact decimal value. -/
def exactDecimal (number : Binary64) : Scientific :=
  Scientific.stripped (number.units * 5 ^ (1074 : Nat)) (-1074)

/-- The shortest decimal that stands for a nonzero number. Seventeen digits are
enough to tell any two numbers apart. -/
def shortest (number : Binary64) : Scientific :=
  ((List.range' 1 17).findSome? number.withDigits?).getD number.exactDecimal

/-- The text of a number. Zero keeps its sign. -/
def text (number : Binary64) : List Char :=
  let magnitude := if number.units = 0 then "0.0".toList else number.shortest.text
  if number.negative then '-' :: magnitude else magnitude

end Binary64

end ExchangeWallet
