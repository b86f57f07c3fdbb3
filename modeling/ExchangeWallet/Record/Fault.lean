import ExchangeWallet.Json.Inspection
/-!
# Faults of shape

Slots are read leniently, shapes are not: a reply has to be an array, and a row
has to have its number of slots. A fault keeps the value that was refused, and its
wording shows it.
-/
namespace ExchangeWallet.Record

open Json (Value)

/-- What an array was expected to be. -/
inductive Shape where
  | walletSnapshot
  | wallet
  | movements
  | movement
  | notification
deriving DecidableEq

/-- The name of a shape. -/
def Shape.name : Shape → String
  | walletSnapshot => "wallet snapshot"
  | wallet => "wallet"
  | movements => "movements"
  | movement => "movement"
  | notification => "notification"

/-- The kinds of rows whose slots are counted. -/
inductive RowKind where
  | wallet
  | movement
  | notification
deriving DecidableEq

namespace RowKind

/-- The number of slots that rows of a kind have, or have at least. -/
def slotCount : RowKind → Nat
  | wallet => 5
  | movement => 22
  | notification => 8

/-- Whether more slots than counted may follow. -/
def isOpenEnded : RowKind → Bool
  | movement => false
  | _ => true

/-- Whether rows of a kind may have a number of slots. -/
def admits (kind : RowKind) (count : Nat) : Bool :=
  if kind.isOpenEnded then kind.slotCount ≤ count else count == kind.slotCount

/-- The rule that `admits` tests, in words. -/
def rule : RowKind → String
  | wallet => s!"wallet row needs at least {wallet.slotCount} fields"
  | movement => s!"movement row must have {movement.slotCount} fields"
  | notification => s!"notification needs at least {notification.slotCount} fields"

end RowKind

/-- Why a reply could not be decoded. -/
inductive Fault where
  | notArray (shape : Shape) (value : Value)
  | slotCount (kind : RowKind) (row : List Value)

/-- The wording of a fault. -/
def Fault.message : Fault → String
  | notArray shape value => s!"expected {shape.name} array, got: {value.compact}"
  | slotCount kind row => s!"{kind.rule}, got {row.length}: {Json.inspectRow row}"

/-- The items of a value that has to be an array. -/
def expectArray (shape : Shape) : Value → Except Fault (List Value)
  | .array items => .ok items
  | value => .error (.notArray shape value)

/-- A row, if its number of slots is right. -/
def expectSlots (kind : RowKind) (row : List Value) : Except Fault (List Value) :=
  if kind.admits row.length then .ok row else .error (.slotCount kind row)

end ExchangeWallet.Record
