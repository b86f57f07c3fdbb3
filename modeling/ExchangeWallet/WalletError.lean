import ExchangeWallet.Json.Fault
import ExchangeWallet.Record.Fault
import ExchangeWallet.Settings.Credential
import ExchangeWallet.Text.Quoted
import ExchangeWallet.Trust.Bundle
/-!
# Errors of a wallet operation

Whatever can go wrong between the environment and a decoded reply is one of nine
kinds of error. An error keeps its cause; its wording names the kind and states the
cause. An error that another component states in its own words is kept as reported.

For inspection an error is written with its kind and its parts, so that texts in it
are visible in full.
-/
namespace ExchangeWallet

/-- The kinds of errors. -/
inductive ErrorKind where
  | configuration
  | credentials
  | validation
  | transport
  | http
  | api
  | decode
  | json
  | trust
deriving DecidableEq

namespace ErrorKind

/-- The name of a kind. -/
def name : ErrorKind → String
  | configuration => "Config"
  | credentials => "Credentials"
  | validation => "Validation"
  | transport => "Transport"
  | http => "Http"
  | api => "Api"
  | decode => "Decode"
  | json => "Json"
  | trust => "Tls"

/-- What the wording of a kind starts with. -/
def title : ErrorKind → String
  | configuration => "configuration error"
  | credentials => "credentials error"
  | validation => "validation error"
  | transport => "transport error"
  | http => "http status"
  | api => "api error"
  | decode => "decode error"
  | json => "json error"
  | trust => "tls error"

end ErrorKind

/-- The largest number of movements that may be asked for at once. -/
def maxMovements : Nat :=
  1000

/-- Why a wallet operation failed. -/
inductive WalletError where
  /-- One credential is set and this one is not. -/
  | credentialMissing (credential : Settings.Credential)
  /-- A request was to be signed without both credentials. -/
  | unsigned
  /-- More movements were asked for than may be. -/
  | limitTooHigh (limit : Nat)
  /-- The request could not be sent, or no reply arrived. -/
  | transport
  /-- The server refused the request. -/
  | http (status : Nat) (body : String)
  /-- The exchange answered with an error of its own. -/
  | api (code : Int) (message : String)
  /-- The reply has another shape than expected. -/
  | decode (fault : Record.Fault)
  /-- The reply is not JSON. -/
  | json (fault : Json.Fault)
  /-- The trust bundle is unusable. -/
  | trust (fault : Trust.Fault)
  /-- An error of a kind, in the words of the component that found it. -/
  | reported (kind : ErrorKind) (detail : String)

namespace WalletError

/-- The kind of an error. -/
def kind : WalletError → ErrorKind
  | credentialMissing _ => .configuration
  | unsigned => .credentials
  | limitTooHigh _ => .validation
  | transport => .transport
  | http _ _ => .http
  | api _ _ => .api
  | decode _ => .decode
  | json _ => .json
  | trust _ => .trust
  | reported kind _ => kind

/-- What an error says beside its kind: the body of a refusal, the message of the
exchange, or the wording of the cause. -/
def detail : WalletError → String
  | credentialMissing credential =>
    s!"{credential.other.variableName} is set but {credential.variableName} is missing"
  | unsigned =>
    let key := Settings.Credential.key.variableName
    let secret := Settings.Credential.secret.variableName
    s!"{key} and {secret} are required for authenticated requests"
  | limitTooHigh limit => s!"max request limit: {maxMovements}, got: {limit}"
  | transport => "the exchange did not take place"
  | http _ body => body
  | api _ message => message
  | decode fault => fault.message
  | json fault => fault.message
  | trust fault => fault.message
  | reported _ detail => detail

/-- The number in an error, which stands between the title and the detail. -/
def number? : WalletError → Option Int
  | http status _ => some status
  | api code _ => some code
  | _ => none

/-- The wording of an error. -/
def message (error : WalletError) : String :=
  let number := match error.number? with
    | some number => " " ++ String.ofList (Numeral.integerText number)
    | none => ""
  error.kind.title ++ number ++ ": " ++ error.detail

/-- An error written for inspection. -/
def inspect (error : WalletError) : String :=
  let name := error.kind.name
  let detail := Text.inspect error.detail
  match error with
  | http status _ => s!"{name} \x7b status: {status}, body: {detail} \x7d"
  | api code _ =>
    s!"{name} \x7b code: {String.ofList (Numeral.integerText code)}, message: {detail} \x7d"
  | json fault =>
    let cause := Text.inspect fault.cause.message
    s!"{name}(Error({cause}, line: {fault.line}, column: {fault.column}))"
  | _ => s!"{name}({detail})"

end WalletError

end ExchangeWallet
