/-!
# Credentials

Two secrets identify the account: a key, which is sent along, and a secret, which
only signs. Each has a variable of the environment and an entry of the keychain.
-/
namespace ExchangeWallet.Settings

/-- One half of the account's credentials. -/
inductive Credential where
  | key
  | secret
deriving DecidableEq

namespace Credential

/-- Both credentials, in the order in which they are looked for. -/
def all : List Credential :=
  [key, secret]

/-- The variable that holds a credential. -/
def variableName : Credential → String
  | key => "BFX_API_KEY"
  | secret => "BFX_API_SECRET"

/-- The keychain entry that holds a credential. -/
def entryName : Credential → String
  | key => "bitfinex_api_key"
  | secret => "bitfinex_api_secret"

/-- The other one. -/
def other : Credential → Credential
  | key => secret
  | secret => key

end Credential

end ExchangeWallet.Settings
