import ExchangeWallet.Service
import ExchangeWallet.Settings.Configuration
import ExchangeWallet.Trust.Bundle
/-!
# Clients

A client is what a configuration asks for: a signer, and the certificates of a bundle
where one is named. An unusable bundle refuses the client, and so does the HTTP library
if it cannot be set up with the certificates. Missing credentials do not; they show
with the first call.
-/
namespace ExchangeWallet

open Settings (Configuration Environment)
open Signing (NonceSource Signer)

/-- Whether the HTTP library can be set up with these certificates in place of the
default trust roots, or with the default ones. -/
abbrev Builds :=
  Option (List (List UInt8)) → Bool

/-- A signer, and the certificates that were found in place of the default trust roots.
The library takes those of them that it can parse. -/
structure Client where
  signer : Signer
  certificates : Option (List (List UInt8))

namespace Client

/-- The certificates in the bundle that a configuration names. -/
def certificatesOf (files : Trust.Files) (configuration : Configuration) :
    Except WalletError (Option (List (List UInt8))) :=
  match configuration.bundle with
  | none => .ok none
  | some path => ((Trust.certificates files path).map some).mapError .trust

/-- The client that a configuration asks for. -/
def ofConfiguration (files : Trust.Files) (builds : Builds) (configuration : Configuration) :
    Except WalletError Client := do
  let certificates ← certificatesOf files configuration
  if builds certificates then return ⟨Signer.ofConfiguration configuration, certificates⟩
  else .error .transport

/-- The wallet service of a client. -/
def service (client : Client) (source : NonceSource) : Service :=
  Service.start client.signer source

end Client

/-- The configuration in an environment, with the error of its fault. -/
def configurationOf (environment : Environment) : Except WalletError Configuration :=
  (Configuration.ofEnvironment environment).mapError .credentialMissing

end ExchangeWallet
