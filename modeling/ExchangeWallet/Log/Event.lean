import ExchangeWallet.Http.Status
import ExchangeWallet.Record.Movement
import ExchangeWallet.Record.Wallet
import ExchangeWallet.Settings.Keychain
/-!
# Log events

An event has a level, a target that says where it comes from, a message and named
details. It is written on one line. Texts among the details stand between quotes
where they name something of the program's own, and as they are where they come
from a reply or from the system.
-/
namespace ExchangeWallet.Log

/-- How grave an event is. -/
inductive Level where
  | error
  | warn
  | info
  | debug
  | trace
deriving DecidableEq

namespace Level

/-- The name of a level. -/
def name : Level → String
  | error => "ERROR"
  | warn => "WARN"
  | info => "INFO"
  | debug => "DEBUG"
  | trace => "TRACE"

/-- The verbosity that shows a level, from one for the gravest. -/
def verbosity : Level → Nat
  | error => 1
  | warn => 2
  | info => 3
  | debug => 4
  | trace => 5

end Level

/-- Something worth telling. -/
inductive Event where
  /-- A keychain entry was opened and gave no text. -/
  | unreadableEntry (credential : Settings.Credential) (fault : Settings.LookupFault)
  /-- A credential was copied from the keychain. -/
  | credentialLoaded (credential : Settings.Credential)
  /-- A credential of the keychain will be used. -/
  | credentialUsed (credential : Settings.Credential)
  /-- The wallets are asked for. -/
  | sendingWallets
  /-- Movements are asked for. -/
  | sendingMovements (start stop : Option Int64) (limit : Option UInt32)
  /-- A reply has arrived. -/
  | received (path : String) (status : Nat)
  /-- A wallet of the account. -/
  | wallet (shown : Record.Wallet)
  /-- A movement of the account. -/
  | movement (shown : Record.Movement)

namespace Event

/-- The level of an event. -/
def level : Event → Level
  | unreadableEntry _ _ => .warn
  | credentialUsed _ => .info
  | wallet _ => .info
  | movement _ => .info
  | _ => .debug

/-- Where an event comes from. -/
def target : Event → String
  | unreadableEntry _ _ => "bfx_wallet::credentials"
  | credentialLoaded _ => "bfx_wallet::credentials"
  | sendingWallets => "bfx_wallet::rest::wallet"
  | sendingMovements _ _ _ => "bfx_wallet::rest::wallet"
  | received _ _ => "bfx_wallet::rest"
  | _ => "bfx_wallet"

/-- What an event says. -/
def message : Event → String
  | unreadableEntry _ _ => "failed to read keychain entry"
  | credentialLoaded _ => "loaded credential from keychain"
  | credentialUsed _ => "using credential from keychain"
  | sendingWallets => "Sending wallet request"
  | sendingMovements _ _ _ => "Sending movements request"
  | received _ _ => "Received response"
  | wallet _ => "wallet"
  | movement _ => "movement"

/-- An optional whole number. -/
def optionText (number : Option Int) : String :=
  match number with
  | some number => s!"Some({String.ofList (Numeral.integerText number)})"
  | none => "None"

/-- The details of an event by name. -/
def details : Event → List (String × String)
  | unreadableEntry credential fault =>
    [("key", Text.inspect credential.entryName), ("error", fault.message)]
  | credentialLoaded credential => [("key", Text.inspect credential.variableName)]
  | credentialUsed credential => [("variable", Text.inspect credential.variableName)]
  | sendingWallets => [("endpoint", Text.inspect "wallets")]
  | sendingMovements start stop limit =>
    [("endpoint", Text.inspect "movements/hist"), ("start", optionText (start.map Int64.toInt)),
      ("end", optionText (stop.map Int64.toInt)),
      ("limit", optionText (limit.map fun count => (count.toNat : Int)))]
  | received path status => [("path", path), ("status", Http.statusText status)]
  | wallet shown =>
    [("wallet_type", shown.walletType), ("currency", shown.currency),
      ("balance", toString shown.balance), ("available", toString shown.balanceAvailable)]
  | movement shown =>
    [("id", String.ofList (Numeral.integerText shown.id)), ("currency", shown.currency),
      ("status", shown.status), ("amount", toString shown.amount)]

/-- The names under which an event tells something. -/
def names (event : Event) : List String :=
  "message" :: event.details.map Prod.fst

/-- The line of an event. -/
def line (event : Event) : String :=
  let details := event.details.map fun (name, value) => s!" {name}={value}"
  s!"{event.level.name} {event.target}: {event.message}" ++ String.join details

end Event

end ExchangeWallet.Log
