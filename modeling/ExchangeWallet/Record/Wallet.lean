import ExchangeWallet.Record.Fault
import ExchangeWallet.Record.Slot
/-!
# Wallets

A wallet row is `[TYPE, CURRENCY, BALANCE, UNSETTLED_INTEREST, BALANCE_AVAILABLE,
DESCRIPTION, META]`. The last two slots may be missing. A snapshot is the array of
an account's wallet rows, in the order of the reply; one row of a wrong shape
refuses all of it.
-/
namespace ExchangeWallet.Record

open Json (Value)

/-- The balance of one wallet. -/
structure Wallet where
  /-- The type of the wallet, such as `exchange` or `margin`. -/
  walletType : String
  currency : String
  balance : Decimal
  unsettledInterest : Decimal
  /-- What of the balance is free; zero where it has not been calculated. -/
  balanceAvailable : Decimal
  description : String
  /-- Whatever else the exchange says about the wallet. -/
  metadata : Json.Fields

namespace Wallet

/-- The wallet that a row of enough slots describes. -/
def ofSlots (row : List Value) : Wallet where
  walletType := text (slot row 0)
  currency := text (slot row 1)
  balance := decimal (slot row 2)
  unsettledInterest := decimal (slot row 3)
  balanceAvailable := decimal (slot row 4)
  description := text (slot row 5)
  metadata := fields (slot row 6)

/-- The wallet that a row describes, if it has enough slots. -/
def ofRow (row : List Value) : Except Fault Wallet :=
  (expectSlots .wallet row).map ofSlots

/-- The wallet that a value describes, which has to be a row. -/
def ofValue (value : Value) : Except Fault Wallet :=
  expectArray .wallet value >>= ofRow

end Wallet

/-- Every wallet of an account at one time. -/
structure Snapshot where
  wallets : List Wallet

namespace Snapshot

/-- The snapshot that a reply describes. The first row that is refused decides the
fault. -/
def ofValue (value : Value) : Except Fault Snapshot := do
  let rows ← expectArray .walletSnapshot value
  return ⟨← rows.mapM Wallet.ofValue⟩

/-- The first wallet of the given type and currency. -/
def find? (snapshot : Snapshot) (walletType currency : String) : Option Wallet :=
  snapshot.wallets.find? fun wallet =>
    wallet.walletType == walletType && wallet.currency == currency

end Snapshot

end ExchangeWallet.Record
