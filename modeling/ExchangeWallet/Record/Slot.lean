import ExchangeWallet.Decimal.Reader
import ExchangeWallet.Json.Printer
/-!
# Lenient slots

The exchange sends records as rows, arrays whose slots have a meaning by their
position. A slot may be missing, null or of an unexpected kind, and it is read all
the same: each reading below takes every value to a result, and takes zero or
nothing from a value of another kind. The number of slots is judged elsewhere.
-/
namespace ExchangeWallet.Record

open Json (Value Number)

/-- The slot at a position. Behind the end of a row every slot is null. -/
def slot (row : List Value) (position : Nat) : Value :=
  row[position]?.getD .null

/-- The whole number nearest to a slot's number, towards zero and within a signed
word of 64 bits, or the numeral in a slot's string if it fits such a word. -/
def integer : Value → Int
  | .number (.whole value _) => Numeral.saturate value
  | .number (.real value) => Numeral.saturate value.truncate
  | .string text => (Numeral.int64? text.toList).getD 0
  | _ => 0

/-- The decimal that a slot's string, or the text of a slot's number, denotes. -/
def decimal : Value → Decimal
  | .number number => Decimal.ofText number.text
  | .string text => Decimal.ofText text.toList
  | _ => Decimal.zero

/-- The text of a slot's string. -/
def text : Value → String
  | .string text => text
  | _ => ""

/-- The fields of a slot's object. -/
def fields : Value → Json.Fields
  | .object fields => fields
  | _ => []

end ExchangeWallet.Record
