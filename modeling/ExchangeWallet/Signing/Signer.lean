import ExchangeWallet.Digest.Hmac
import ExchangeWallet.Json.Printer
import ExchangeWallet.Json.Reader
import ExchangeWallet.Settings.Configuration
import ExchangeWallet.Signing.Nonce
import ExchangeWallet.Text.Utf8
import ExchangeWallet.WalletError
/-!
# Signed requests

Every private endpoint is below `auth/r/` for questions and `auth/w/` for changes.
A request is signed by the keyed digest of its path, its nonce and its body, written
one behind the other; the digest is keyed with the account's secret, and sent in
hexadecimal. The body is sent exactly as it was signed.

A signer needs both credentials, and empty ones do not count. Without them nothing
is signed, the clock is not read and no nonce is used up. For inspection a signer
shows which credentials it has and not what they are.
-/
namespace ExchangeWallet.Signing

open Json (Value)

/-- What a request may do to the account. -/
inductive Permission where
  | read
  | write
deriving DecidableEq

/-- The letter of a permission in paths. -/
def Permission.letter : Permission → String
  | read => "r"
  | write => "w"

/-- A request that can be sent as it is. -/
structure Request where
  /-- Where the request is sent to. -/
  url : String
  /-- The path that was signed. -/
  path : String
  headers : List (String × String)
  /-- The body that was signed. -/
  body : String
deriving DecidableEq

namespace Request

/-- A name with its ASCII letters in lower case. -/
def lowered (name : String) : List Char :=
  name.toList.map Char.toLower

/-- The value of the first header of a name, in whatever case it is given. -/
def header? (request : Request) (name : String) : Option String :=
  (request.headers.find? fun header => lowered header.1 == lowered name).map Prod.snd

/-- The value that the body denotes. -/
def value (request : Request) : Except WalletError Value :=
  (Json.read request.body).mapError .json

end Request

/-- The text that is signed for a request. -/
def signedText (path nonce body : String) : String :=
  "/api/" ++ path ++ nonce ++ body

/-- The signature of a request under a secret. -/
def signature (secret path nonce body : String) : String :=
  Digest.hex (Digest.hmacSha384 (Text.bytes secret) (Text.bytes (signedText path nonce body)))

/-- The base URL and the credentials that requests are made with. -/
structure Signer where
  baseUrl : String
  key : Option String
  secret : Option String
deriving DecidableEq

namespace Signer

/-- A credential, unless it is empty. -/
def nonempty (credential : Option String) : Option String :=
  credential.filter fun text => text ≠ ""

/-- The signer with the given parts. -/
def ofParts (baseUrl : String) (key secret : Option String) : Signer :=
  ⟨Settings.withSlash baseUrl, nonempty key, nonempty secret⟩

/-- The signer that a configuration asks for. -/
def ofConfiguration (configuration : Settings.Configuration) : Signer :=
  ofParts configuration.apiUrl configuration.key configuration.secret

/-- Whether a signer has both credentials. -/
def isComplete (signer : Signer) : Bool :=
  signer.key.isSome && signer.secret.isSome

/-- A credential written for inspection. -/
def inspectCredential (credential : Option String) : String :=
  Text.inspectOption (credential.map fun _ => "[REDACTED]")

/-- The signer written for inspection. -/
def inspect (signer : Signer) : String :=
  let baseUrl := Text.inspect signer.baseUrl
  let key := inspectCredential signer.key
  let secret := inspectCredential signer.secret
  s!"Signer \x7b base_url: {baseUrl}, api_key: {key}, api_secret: {secret} \x7d"

/-- The request for an endpoint, signed with the given credentials and nonce. -/
def compose (baseUrl key secret : String) (permission : Permission) (endpoint : String)
    (body : Value) (nonce : UInt64) : Request :=
  let place := "auth/" ++ permission.letter ++ "/" ++ endpoint
  let path := "v2/" ++ place
  let number := String.ofList (Numeral.naturalText nonce.toNat)
  let text := body.compact
  { url := baseUrl ++ place
    path := path
    headers :=
      [("content-type", "application/json"), ("bfx-nonce", number), ("bfx-apikey", key),
        ("bfx-signature", signature secret path number text)]
    body := text }

/-- Makes a request for an endpoint, and gives what is left of the nonces' source. -/
def request (signer : Signer) (permission : Permission) (endpoint : String) (body : Value)
    (source : NonceSource) : Except WalletError Request × NonceSource :=
  match signer.key, signer.secret with
  | some key, some secret =>
    let (nonce, source) := source.issue
    (.ok (compose signer.baseUrl key secret permission endpoint body nonce), source)
  | _, _ => (.error .unsigned, source)

/-- Makes a request whose body is the empty object. -/
def requestWithoutBody (signer : Signer) (permission : Permission) (endpoint : String)
    (source : NonceSource) : Except WalletError Request × NonceSource :=
  signer.request permission endpoint Value.emptyObject source

end Signer

end ExchangeWallet.Signing
