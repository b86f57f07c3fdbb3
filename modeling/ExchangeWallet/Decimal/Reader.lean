import ExchangeWallet.Decimal.Basic
/-!
# Reading decimals

The positional form has an optional sign, digits, at most one point, and
underscores anywhere behind the first digit. A fraction with more digits than
the coefficient or the scale can hold is rounded by the first digit that has no
place, a half going up; digits before the point are never dropped.

The scientific form is a positional base, `e` or `E`, and a whole exponent. It
moves the point of the base as it was read, so the base is rounded first.

The lenient reading tries one form after the other and takes zero for a text of
neither form and for a magnitude that does not fit.
-/
namespace ExchangeWallet.Decimal

-- The power of natural exponents, also where another one is in scope.
attribute [local instance (high)] instPowNat

/-- The part of an unsigned decimal that has been read. -/
structure Progress where
  coefficient : Nat
  scale : Nat
  /-- Whether the point has been passed. -/
  pointed : Bool
  /-- Whether there has been a digit. -/
  started : Bool

namespace Progress

/-- Nothing read yet. -/
def none : Progress :=
  ⟨0, 0, false, false⟩

/-- One digit more, behind the point if that has been passed. -/
def push (progress : Progress) (digit : Nat) : Progress :=
  { coefficient := 10 * progress.coefficient + digit
    scale := if progress.pointed then progress.scale + 1 else 0
    pointed := progress.pointed
    started := true }

/-- Below this bound a coefficient surely has room for another digit in 64 bits. -/
def wordBound : Nat :=
  (2 ^ (64 : Nat) - 1) / 10 - 255

/-- Whether the coefficient was below the bound before its last digit. -/
def isNarrow (progress : Progress) : Bool :=
  progress.coefficient / 10 < wordBound

/-- Rounds by a digit that has no place. If the coefficient grows out of its 96
bits by that, its last place is given up too. What follows may only be digits
and underscores, and does not count. -/
def rounded? (progress : Progress) (digit : Nat) (rest : List Char) : Option (Nat × Nat) :=
  if rest.all (fun character => character.isDigit || character == '_') then
    if digit < 5 then some (progress.coefficient, progress.scale)
    else if progress.coefficient + 1 < 2 ^ (96 : Nat) then
      some (progress.coefficient + 1, progress.scale)
    else if progress.scale = 0 then Option.none
    else some ((progress.coefficient + 5) / 10, progress.scale - 1)
  else Option.none

/-- With all places taken, the character that follows decides on the rounding of the
last one. An underscore counts as the digit zero behind a narrow coefficient, while
behind a wide one the next digit decides. The point has been passed, so a second one
is refused here as it is elsewhere. -/
def settle? (progress : Progress) : List Char → Option (Nat × Nat)
  | [] => some (progress.coefficient, progress.scale)
  | character :: rest =>
    if character = '_' then
      if progress.isNarrow then progress.rounded? 0 rest else progress.settle? rest
    else do progress.rounded? (← Numeral.digit? character) rest

/-- Reads the rest of an unsigned decimal and gives its coefficient and scale. -/
def finish? (progress : Progress) : List Char → Option (Nat × Nat)
  | [] => if progress.started then some (progress.coefficient, progress.scale) else Option.none
  | character :: rest =>
    if progress.scale = maxScale then progress.settle? (character :: rest)
    else if character = '.' then
      if progress.pointed then Option.none else { progress with pointed := true }.finish? rest
    else if character = '_' then
      if progress.started then progress.finish? rest else Option.none
    else do
      let digit ← Numeral.digit? character
      if (progress.push digit).coefficient < 2 ^ (96 : Nat) then (progress.push digit).finish? rest
      else if progress.pointed then progress.rounded? digit rest
      else Option.none

end Progress

/-- An unsigned positional decimal, given a sign that zero does not keep. -/
def readMagnitude? (negative : Bool) (text : List Char) : Option Decimal := do
  let (coefficient, scale) ← Progress.none.finish? text
  ofParts? (negative && coefficient != 0) coefficient scale

/-- The decimal that a positional text denotes. -/
def read? : List Char → Option Decimal
  | '-' :: text => readMagnitude? true text
  | '+' :: text => readMagnitude? false text
  | text => readMagnitude? false text

/-- Moves the point to the left. If that takes more places than there are, the
coefficient is rounded to the places left, a half going up. The sign stays, even
on what has become zero. -/
def shiftLeft? (decimal : Decimal) (places : Nat) : Option Decimal :=
  if places > maxScale then none
  else if decimal.scale + places ≤ maxScale then
    ofParts? decimal.negative decimal.coefficient (decimal.scale + places)
  else
    let lost := decimal.scale + places - maxScale
    let rounded := (decimal.coefficient + 5 * 10 ^ (lost - 1)) / 10 ^ lost
    ofParts? decimal.negative rounded maxScale

/-- Moves the point to the right, past the last digit if need be. -/
def shiftRight? (decimal : Decimal) (places : Nat) : Option Decimal :=
  if places ≤ decimal.scale then
    ofParts? decimal.negative decimal.coefficient (decimal.scale - places)
  else if places > maxScale then none
  else ofParts? decimal.negative (decimal.coefficient * 10 ^ (places - decimal.scale)) 0

/-- Whether a character opens an exponent. -/
def isExponentMark (character : Char) : Bool :=
  character == 'e' || character == 'E'

/-- The decimal that a scientific text denotes. -/
def readScientific? (text : List Char) : Option Decimal :=
  match text.dropWhile (fun character => !isExponentMark character) with
  | [] => none
  | _ :: exponent => do
    let base ← read? (text.takeWhile fun character => !isExponentMark character)
    match exponent with
    | '-' :: digits => base.shiftLeft? (← Numeral.naturalBelow? (2 ^ (32 : Nat)) digits)
    | digits => base.shiftRight? (← Numeral.naturalBelow? (2 ^ (32 : Nat)) digits)

/-- The decimal that a text denotes in either form, and zero if it denotes none. -/
def ofText (text : List Char) : Decimal :=
  ((read? text).or (readScientific? text)).getD zero

end ExchangeWallet.Decimal
