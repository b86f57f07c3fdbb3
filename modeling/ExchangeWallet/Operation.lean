import ExchangeWallet.Instruction
import ExchangeWallet.Record.Movement
import ExchangeWallet.Record.Notification
import ExchangeWallet.Record.Wallet
import ExchangeWallet.Signing.Signer
/-!
# Wallet operations

An operation settles three things on its own: the endpoint with the permission it
needs, the body that is sent there, and the kind of record that the reply has to be.
Nothing in the arguments can lead to another endpoint or permission.
-/
namespace ExchangeWallet

open Json (Value)
open Signing (Permission)

/-- What can be asked of the wallets of an account. -/
inductive Operation where
  | wallets
  | transfer (instruction : Transfer)
  /-- The present deposit address. -/
  | depositAddress (wallet method : String)
  /-- A new deposit address; earlier ones stay valid. -/
  | createDepositAddress (wallet method : String)
  | withdraw (instruction : Withdrawal)
  | movements (start stop : Option Int64) (limit : Option UInt32)

/-- A request before it is signed. -/
structure Draft where
  permission : Permission
  endpoint : String
  body : Value

/-- What an operation answers. -/
inductive Answer where
  | snapshot (snapshot : Record.Snapshot)
  | history (movements : List Record.Movement)
  | notification (notification : Record.Notification)

namespace Operation

/-- The draft of a change. -/
def change (endpoint : String) (declaration : Instruction.Declaration) : Draft :=
  ⟨.write, endpoint, Instruction.object declaration⟩

/-- The request that an operation makes. Only a limit of movements can be refused. -/
def draft : Operation → Except WalletError Draft
  | wallets => .ok ⟨.read, "wallets", Value.emptyObject⟩
  | transfer instruction => .ok (change "transfer" instruction.declaration)
  | depositAddress wallet method =>
    .ok (change "deposit/address" (DepositAddress.declaration ⟨wallet, method, 0⟩))
  | createDepositAddress wallet method =>
    .ok (change "deposit/address" (DepositAddress.declaration ⟨wallet, method, 1⟩))
  | withdraw instruction => .ok (change "withdraw" instruction.declaration)
  | movements start stop limit => do
    let query ← MovementQuery.ofBounds start stop limit
    return ⟨.read, "movements/hist", Instruction.object query.declaration⟩

/-- The answer in a payload. -/
def decode (operation : Operation) (payload : Value) : Except WalletError Answer :=
  match operation with
  | wallets => ((Record.Snapshot.ofValue payload).map .snapshot).mapError .decode
  | movements _ _ _ => ((Record.Movement.historyOfValue payload).map .history).mapError .decode
  | _ => ((Record.Notification.ofValue payload).map .notification).mapError .decode

end Operation

end ExchangeWallet
