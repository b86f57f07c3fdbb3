import ExchangeWallet.Record.Fault
import ExchangeWallet.Record.Slot
/-!
# Notifications

Transfers, deposit addresses and withdrawals are acknowledged by
`[MTS, TYPE, MESSAGE_ID, _, INFO, CODE, STATUS, TEXT]`. The info slot repeats the
operation in a layout that depends on the type. An info of another type, or with
too few slots for its type, is kept as it was sent; it never refuses the
notification.
-/
namespace ExchangeWallet.Record

open Json (Value)

/-- The info of a transfer, `[UPDATED, FROM, TO, _, CURRENCY, CURRENCY_TO, _, AMOUNT]`. -/
structure TransferInfo where
  updated : Int
  walletFrom : String
  walletTo : String
  currency : String
  currencyTo : String
  amount : Decimal

/-- The info of a deposit address, `[_, METHOD, CURRENCY, _, ADDRESS, POOL_ADDRESS]`. -/
structure DepositAddressInfo where
  method : String
  currencyCode : String
  address : String
  /-- The pool address of a currency whose `address` is a tag. -/
  poolAddress : String

/-- The info of a withdrawal,
`[ID, _, METHOD, PAYMENT_ID, WALLET, AMOUNT, _, _, FEE]`. -/
structure WithdrawalInfo where
  id : Int
  method : String
  paymentId : String
  wallet : String
  amount : Decimal
  fee : Decimal

/-- What a notification says about its operation. -/
inductive Info where
  | transfer (info : TransferInfo)
  | depositAddress (info : DepositAddressInfo)
  | withdrawal (info : WithdrawalInfo)
  /-- The slot was null. -/
  | empty
  /-- The slot as it was sent. -/
  | raw (value : Value)

/-- The transfer that a row describes, if it has at least 8 slots. -/
def TransferInfo.ofRow? (row : List Value) : Option TransferInfo :=
  if row.length < 8 then none
  else some
    { updated := integer (slot row 0)
      walletFrom := text (slot row 1)
      walletTo := text (slot row 2)
      currency := text (slot row 4)
      currencyTo := text (slot row 5)
      amount := decimal (slot row 7) }

/-- The deposit address that a row describes, if it has at least 5 slots. -/
def DepositAddressInfo.ofRow? (row : List Value) : Option DepositAddressInfo :=
  if row.length < 5 then none
  else some
    { method := text (slot row 1)
      currencyCode := text (slot row 2)
      address := text (slot row 4)
      poolAddress := text (slot row 5) }

/-- The withdrawal that a row describes, if it has at least 6 slots. -/
def WithdrawalInfo.ofRow? (row : List Value) : Option WithdrawalInfo :=
  if row.length < 6 then none
  else some
    { id := integer (slot row 0)
      method := text (slot row 2)
      paymentId := text (slot row 3)
      wallet := text (slot row 4)
      amount := decimal (slot row 5)
      fee := decimal (slot row 8) }

namespace Info

/-- The info that a row has under a notification type, if the type is known and the
row is long enough for it. -/
def ofRow? (notificationType : String) (row : List Value) : Option Info :=
  if notificationType = "acc_tf" then (TransferInfo.ofRow? row).map transfer
  else if notificationType = "acc_dep" then (DepositAddressInfo.ofRow? row).map depositAddress
  else if notificationType = "acc_wd-req" then (WithdrawalInfo.ofRow? row).map withdrawal
  else none

/-- The info in a slot under a notification type. -/
def ofValue (notificationType : String) : Value → Info
  | .null => empty
  | .array row => (ofRow? notificationType row).getD (raw (.array row))
  | value => raw value

end Info

/-- The acknowledgement of an operation. -/
structure Notification where
  /-- When it was sent, in milliseconds since the epoch. -/
  sent : Int
  notificationType : String
  messageId : Int
  info : Info
  code : Int
  /-- The outcome, such as `SUCCESS` or `ERROR`. -/
  status : String
  text : String

namespace Notification

/-- The notification that a row of enough slots describes. -/
def ofSlots (row : List Value) : Notification where
  sent := integer (slot row 0)
  notificationType := Record.text (slot row 1)
  messageId := integer (slot row 2)
  info := Info.ofValue (Record.text (slot row 1)) (slot row 4)
  code := integer (slot row 5)
  status := Record.text (slot row 6)
  text := Record.text (slot row 7)

/-- The notification that a reply describes. -/
def ofValue (value : Value) : Except Fault Notification := do
  let row ← expectArray .notification value
  return ofSlots (← expectSlots .notification row)

/-- Whether the exchange accepted the operation. -/
def isSuccess (notification : Notification) : Bool :=
  notification.status == "SUCCESS"

end Notification

end ExchangeWallet.Record
