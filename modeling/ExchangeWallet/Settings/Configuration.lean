import ExchangeWallet.Settings.Credential
import ExchangeWallet.Settings.Environment
import ExchangeWallet.Text.Quoted
/-!
# Configuration

The configuration is read from four variables: the two credentials, the base URL of
the exchange, and the path of a trust bundle. All may be missing, but one credential
without the other is refused. The base URL always ends in a slash.
-/
namespace ExchangeWallet.Settings

/-- The variable of the base URL. -/
def urlVariable : String :=
  "BFX_API_URL"

/-- The variable of the path of a trust bundle. -/
def bundleVariable : String :=
  "BFX_CA_BUNDLE"

/-- The base URL where none is set. -/
def defaultUrl : String :=
  "https://api.bitfinex.com/v2/"

/-- A URL with a slash at its end, added only if there is none. -/
def withSlash (url : String) : String :=
  if url.toList.getLast? = some '/' then url else url.push '/'

/-- What the environment settles. -/
structure Configuration where
  apiUrl : String
  key : Option String
  secret : Option String
  bundle : Option String
deriving DecidableEq

namespace Configuration

/-- The configuration in an environment. If only one credential is set, the fault is
the other one, which is missing. -/
def ofEnvironment (environment : Environment) : Except Credential Configuration :=
  let key := environment.text? Credential.key.variableName
  let secret := environment.text? Credential.secret.variableName
  match key, secret with
  | some _, none => .error .secret
  | none, some _ => .error .key
  | key, secret =>
    .ok
      { apiUrl := withSlash ((environment.text? urlVariable).getD defaultUrl)
        key := key
        secret := secret
        bundle := environment.text? bundleVariable }

/-- The configuration written for inspection, credentials included. -/
def inspect (configuration : Configuration) : String :=
  let apiUrl := Text.inspect configuration.apiUrl
  let key := Text.inspectOption configuration.key
  let secret := Text.inspectOption configuration.secret
  let bundle := Text.inspectOption configuration.bundle
  s!"AppConfig \x7b bitfinex: BitfinexConfig \x7b api_url: {apiUrl}, api_key: {key}, " ++
    s!"api_secret: {secret}, ca_bundle: {bundle} \x7d \x7d"

end Configuration

end ExchangeWallet.Settings
