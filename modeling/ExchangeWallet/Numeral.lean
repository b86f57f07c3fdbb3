/-!
# Decimal numerals

Whole numbers are written in base ten without leading zeros, negative ones
behind a minus sign. Reading is stricter than counting digits: a numeral has at
least one digit, a single optional sign where one is allowed, and nothing else.

Only the ten ASCII digits count as digits. The bounds of the machine types that
numerals are read into are checked here, so that callers never see a value
outside them.
-/
namespace ExchangeWallet.Numeral

-- The power of natural exponents, also where another one is in scope.
attribute [local instance (high)] instPowNat

/-- The text of a natural number. -/
def naturalText (number : Nat) : List Char :=
  Nat.toDigits 10 number

/-- The text of an integer: the digits of its magnitude, behind a minus sign
when it is negative. Zero has no sign. -/
def integerText : Int → List Char
  | .ofNat number => naturalText number
  | .negSucc number => '-' :: naturalText (number + 1)

/-- The value of a decimal digit. -/
def digit? (character : Char) : Option Nat :=
  if character.isDigit then some (character.toNat - '0'.toNat) else none

/-- A nonempty run of digits, and nothing else. -/
def natural? (text : List Char) : Option Nat :=
  if text ≠ [] ∧ text.all Char.isDigit then some (Nat.ofDigitChars 10 text 0) else none

/-- A run of digits behind at most one sign. -/
def integer? : List Char → Option Int
  | '-' :: digits => (natural? digits).map fun number => -(number : Int)
  | '+' :: digits => (natural? digits).map fun number => (number : Int)
  | digits => (natural? digits).map fun number => (number : Int)

/-- The integers of a signed word of 64 bits. -/
def IsInt64 (number : Int) : Prop :=
  -(2 ^ (63 : Nat)) ≤ number ∧ number < 2 ^ (63 : Nat)

instance (number : Int) : Decidable (IsInt64 number) :=
  inferInstanceAs (Decidable (_ ∧ _))

/-- A numeral that fits a signed word of 64 bits. A larger one is refused rather
than clipped. -/
def int64? (text : List Char) : Option Int :=
  (integer? text).filter fun number => decide (IsInt64 number)

/-- An unsigned numeral below `bound`, behind an optional plus sign. -/
def naturalBelow? (bound : Nat) (text : List Char) : Option Nat :=
  let digits := match text with
    | '+' :: digits => digits
    | digits => digits
  (natural? digits).filter fun number => decide (number < bound)

/-- The nearest integer that fits a signed word of 64 bits. -/
def saturate (number : Int) : Int :=
  max (-(2 ^ (63 : Nat))) (min number (2 ^ (63 : Nat) - 1))

end ExchangeWallet.Numeral
