import ExchangeWallet.Numeral
import ExchangeWallet.Json.Parsed
import ExchangeWallet.Json.Value
/-!
# Reading JSON numbers

The digits of a number make a significand of 64 bits. Once a digit in front of
the point does not fit, it and those after it only raise the power of ten; once a
digit behind the point does not fit, it and those after it are left out. The
significand becomes a floating-point number first and is scaled second, so a
number with many digits is near what is written and not always nearest to it.

A number without fraction and exponent is a whole one where its range allows it.
Minus zero is not whole, since only a floating-point zero has a sign.
-/
namespace ExchangeWallet.Json

-- The power of natural exponents, also where another one is in scope.
attribute [local instance (high)] instPowNat

/-- The digits of a number as far as they have been read. -/
structure Significand where
  /-- The digits that fit 64 bits. -/
  value : Nat
  /-- The power of ten they are to be multiplied with. -/
  exponent : Int
  /-- Whether a digit has been left out. -/
  full : Bool
deriving DecidableEq

namespace Significand

/-- Whether one more digit fits 64 bits. -/
def hasRoomFor (significand : Significand) (digit : Nat) : Bool :=
  !significand.full && 10 * significand.value + digit < 2 ^ (64 : Nat)

/-- One more digit in front of the point. -/
def pushWhole (significand : Significand) (digit : Nat) : Significand :=
  if significand.hasRoomFor digit then
    { significand with value := 10 * significand.value + digit }
  else { significand with exponent := significand.exponent + 1, full := true }

/-- One more digit behind the point. -/
def pushFraction (significand : Significand) (digit : Nat) : Significand :=
  if significand.hasRoomFor digit then
    { significand with
      value := 10 * significand.value + digit
      exponent := significand.exponent - 1 }
  else { significand with full := true }

/-- The digits in front of the point. -/
def ofWhole (digits : List Char) : Significand :=
  (digits.filterMap Numeral.digit?).foldl pushWhole ⟨0, 0, false⟩

/-- The digits behind the point. Their room is judged anew. -/
def withFraction (significand : Significand) (digits : List Char) : Significand :=
  (digits.filterMap Numeral.digit?).foldl pushFraction { significand with full := false }

/-- The same digits with another power of ten on top. -/
def shifted (significand : Significand) (change : Int) : Significand :=
  { significand with exponent := significand.exponent + change }

/-- The floating-point number, unless it is too large. -/
def real? (significand : Significand) (negative : Bool) : Option Number :=
  (Binary64.scaled? negative significand.value significand.exponent).map .real

/-- The number without fraction and exponent. -/
def whole? (significand : Significand) (negative : Bool) : Option Number :=
  if significand.full then significand.real? negative
  else if negative then
    if significand.value = 0 then significand.real? negative
    else (Number.ofInt? (-significand.value)).or (significand.real? negative)
  else Number.ofInt? significand.value

end Significand

/-- A number in front of the given text, or the stop for one that is too large. -/
def numberBefore (rest : List Char) (number : Option Number) :
    Except Stop (Parsed Number (rest.length + 1)) :=
  match number with
  | some number => .ok ⟨number, rest, length_lt_succ rest⟩
  | none => .error (Stop.before .numberOutOfRange rest)

/-- The stop where a digit is missing. -/
def missingDigit (text : List Char) : Stop :=
  Stop.upon (if text = [] then .endInValue else .invalidNumber) text

/-- The bound that an exponent has to stay below. -/
def exponentBound : Nat :=
  2 ^ (31 : Nat)

/-- The text behind the digit that takes an exponent to its bound. -/
def behindExcess (value : Nat) : List Char → List Char
  | [] => []
  | character :: rest =>
    let value := 10 * value + (Numeral.digit? character).getD 0
    if value < exponentBound then behindExcess value rest else rest

/-- Reads the digits of an exponent and gives the scaled number. An exponent
beyond its bound makes zero where it is negative or the significand is zero. -/
def readExponentDigits (negative lowers : Bool) (significand : Significand) (text : List Char) :
    Except Stop (Parsed Number (text.length + 1)) :=
  let digits := text.takeWhile Char.isDigit
  let rest := text.dropWhile Char.isDigit
  have le : rest.length + 1 ≤ text.length + 1 :=
    Nat.succ_le_succ (length_dropWhile_le Char.isDigit text)
  let exponent := Nat.ofDigitChars 10 digits 0
  if digits = [] then .error (missingDigit text)
  else if exponent < exponentBound then
    let scaled := significand.shifted (if lowers then -exponent else exponent)
    (numberBefore rest (scaled.real? negative)).map fun parsed => parsed.widen le
  else if lowers ∨ significand.value = 0 then
    .ok ⟨.real (Binary64.zero negative), rest, le⟩
  else .error (Stop.before .numberOutOfRange (behindExcess 0 text))

/-- Reads the sign and the digits of an exponent, whose mark has been passed. -/
def readExponent (negative : Bool) (significand : Significand) (text : List Char) :
    Except Stop (Parsed Number (text.length + 1)) :=
  match text with
  | '+' :: rest =>
    (readExponentDigits negative false significand rest).map fun parsed =>
      parsed.widen (length_succ_le rest)
  | '-' :: rest =>
    (readExponentDigits negative true significand rest).map fun parsed =>
      parsed.widen (length_succ_le rest)
  | text => readExponentDigits negative false significand text

/-- Reads the exponent of a number, if there is one. -/
def readScale (negative : Bool) (significand : Significand) (text : List Char) :
    Except Stop (Parsed Number (text.length + 1)) :=
  match text with
  | 'e' :: rest =>
    (readExponent negative significand rest).map fun parsed =>
      parsed.widen (length_succ_le rest)
  | 'E' :: rest =>
    (readExponent negative significand rest).map fun parsed =>
      parsed.widen (length_succ_le rest)
  | text => numberBefore text (significand.real? negative)

/-- Reads the digits behind the point, and what follows them. -/
def readFraction (negative : Bool) (significand : Significand) (text : List Char) :
    Except Stop (Parsed Number (text.length + 1)) :=
  let digits := text.takeWhile Char.isDigit
  let rest := text.dropWhile Char.isDigit
  have le : rest.length + 1 ≤ text.length + 1 :=
    Nat.succ_le_succ (length_dropWhile_le Char.isDigit text)
  if digits = [] then .error (missingDigit text)
  else
    (readScale negative (significand.withFraction digits) rest).map fun parsed => parsed.widen le

/-- Reads what follows the digits in front of the point. -/
def readBehindWhole (negative : Bool) (significand : Significand) (text : List Char) :
    Except Stop (Parsed Number (text.length + 1)) :=
  match text with
  | '.' :: rest =>
    (readFraction negative significand rest).map fun parsed =>
      parsed.widen (length_succ_le rest)
  | 'e' :: rest =>
    (readExponent negative significand rest).map fun parsed =>
      parsed.widen (length_succ_le rest)
  | 'E' :: rest =>
    (readExponent negative significand rest).map fun parsed =>
      parsed.widen (length_succ_le rest)
  | text => numberBefore text (significand.whole? negative)

/-- Reads a number from its first digit on. Its sign has been passed. Behind a
leading zero no other digit may follow. -/
def readNumber (negative : Bool) (text : List Char) :
    Except Stop (Parsed Number text.length) :=
  let digits := text.takeWhile Char.isDigit
  let rest := text.dropWhile Char.isDigit
  if missing : digits = [] then .error (missingDigit text)
  else if digits.head? = some '0' ∧ digits.length ≠ 1 then
    .error (Stop.upon .invalidNumber (text.drop 1))
  else
    (readBehindWhole negative (Significand.ofWhole digits) rest).map fun parsed =>
      parsed.widen (length_dropWhile_lt missing)

end ExchangeWallet.Json
