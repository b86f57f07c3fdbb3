import ExchangeWallet.Record.Fault
import ExchangeWallet.Record.Slot
/-!
# Movements

A movement row has exactly 22 slots, half of which are placeholders. A history is
the array of movement rows in the order of the reply; one row of a wrong shape
refuses all of it.
-/
namespace ExchangeWallet.Record

open Json (Value)

/-- One deposit or withdrawal. Times are in milliseconds since the epoch. -/
structure Movement where
  id : Int
  currency : String
  currencyName : String
  started : Int
  updated : Int
  /-- The state of the movement, such as `PENDING` or `COMPLETED`. -/
  status : String
  /-- Positive for a deposit and negative for a withdrawal. -/
  amount : Decimal
  fees : Decimal
  destinationAddress : String
  transactionId : String
  note : String

namespace Movement

/-- The movement that a row of the right number of slots describes. -/
def ofSlots (row : List Value) : Movement where
  id := integer (slot row 0)
  currency := text (slot row 1)
  currencyName := text (slot row 2)
  started := integer (slot row 5)
  updated := integer (slot row 6)
  status := text (slot row 9)
  amount := decimal (slot row 12)
  fees := decimal (slot row 13)
  destinationAddress := text (slot row 16)
  transactionId := text (slot row 20)
  note := text (slot row 21)

/-- The movement that a row describes, if its number of slots is right. -/
def ofRow (row : List Value) : Except Fault Movement :=
  (expectSlots .movement row).map ofSlots

/-- The movement that a value describes, which has to be a row. -/
def ofValue (value : Value) : Except Fault Movement :=
  expectArray .movement value >>= ofRow

/-- The history that a reply describes. The first row that is refused decides the
fault. -/
def historyOfValue (value : Value) : Except Fault (List Movement) := do
  let rows ← expectArray .movements value
  rows.mapM ofValue

end Movement

end ExchangeWallet.Record
