import ExchangeWallet.Decimal.Basic
import ExchangeWallet.Json.Value
import ExchangeWallet.WalletError
/-!
# Instructions

An instruction is what an operation asks of the exchange. Its fields are declared in
an order of their own, and sent as an object, in the order of their keys. An amount is
sent as the text of its normal form, so that equal amounts have one text. A field
that is not given is left out; it is never sent as null or empty.
-/
namespace ExchangeWallet

open Json (Value)

namespace Instruction

/-- Fields in the order of their declaration. -/
abbrev Declaration :=
  List (String × Value)

/-- The value of an amount. -/
def amountValue (amount : Decimal) : Value :=
  .string (toString amount.normalize)

/-- The field of an optional value, if it is given. -/
def optionalField {α : Type} (key : String) (value : Option α) (toValue : α → Value) :
    Declaration :=
  match value with
  | some value => [(key, toValue value)]
  | none => []

/-- The object of declared fields. -/
def object (declaration : Declaration) : Value :=
  .object (Json.Fields.ofList declaration)

end Instruction

open Instruction

/-- Moves an amount between two wallets, maybe into another currency. -/
structure Transfer where
  source : String
  target : String
  currency : String
  targetCurrency : String
  amount : Decimal
deriving DecidableEq

/-- The fields of a transfer. -/
def Transfer.declaration (instruction : Transfer) : Declaration :=
  [("from", .string instruction.source), ("to", .string instruction.target),
    ("currency", .string instruction.currency), ("currency_to", .string instruction.targetCurrency),
    ("amount", amountValue instruction.amount)]

/-- Asks for a deposit address. -/
structure DepositAddress where
  wallet : String
  method : String
  /-- One for a new address, zero for the present one. -/
  renew : UInt8
deriving DecidableEq

/-- The fields of a question for a deposit address. -/
def DepositAddress.declaration (instruction : DepositAddress) : Declaration :=
  [("wallet", .string instruction.wallet), ("method", .string instruction.method),
    ("op_renew", .number (.ofUInt64 instruction.renew.toUInt64))]

/-- Sends an amount out of a wallet to an address. -/
structure Withdrawal where
  wallet : String
  method : String
  amount : Decimal
  address : String
  /-- The memo or tag of the recipient. -/
  paymentId : Option String
deriving DecidableEq

/-- The fields of a withdrawal. -/
def Withdrawal.declaration (instruction : Withdrawal) : Declaration :=
  [("wallet", .string instruction.wallet), ("method", .string instruction.method),
    ("amount", amountValue instruction.amount), ("address", .string instruction.address)] ++
    optionalField "payment_id" instruction.paymentId .string

/-- Asks for movements within a time, in milliseconds, up to a number of them. -/
structure MovementQuery where
  start : Option Int64
  stop : Option Int64
  limit : Option UInt32
  limit_le : ∀ count ∈ limit, count.toNat ≤ maxMovements

namespace MovementQuery

/-- The question with these bounds. A limit that is too high is refused, never
lowered. -/
def ofBounds (start stop : Option Int64) (limit : Option UInt32) :
    Except WalletError MovementQuery :=
  match limit with
  | none => .ok ⟨start, stop, none, by simp⟩
  | some count =>
    if le : count.toNat ≤ maxMovements then
      .ok ⟨start, stop, some count, by simpa using le⟩
    else .error (.limitTooHigh count.toNat)

/-- The fields of a question for movements. -/
def declaration (instruction : MovementQuery) : Declaration :=
  optionalField "start" instruction.start (fun time => .number (.ofInt64 time)) ++
    optionalField "end" instruction.stop (fun time => .number (.ofInt64 time)) ++
    optionalField "limit" instruction.limit (fun count => .number (.ofUInt64 count.toUInt64))

end MovementQuery

end ExchangeWallet
