import ExchangeWallet.Client
import ExchangeWallet.Settings.Keychain
/-!
# Surroundings

A process finds an environment, a keychain, files and an HTTP library around it, and has
a source of nonces of its own. Its surroundings change while it runs, and it can look at its
settings in between. A step is one change or one look, and shows what was found and
which keychain entries were opened.

Only filling in credentials opens entries and changes the environment at once; the
configuration is read from the environment alone.
-/
namespace ExchangeWallet

open Settings (Attempt Configuration Credential Entry Environment Keychain)
open Signing (NonceSource Request Signer)

/-- What a process finds, and its source of nonces. -/
structure Surroundings where
  environment : Environment
  keychain : Keychain
  files : Trust.Files
  builds : Builds
  source : NonceSource

/-- A change of the surroundings, or a look at the settings. -/
inductive Step where
  | setVariable (name : String) (value : ByteArray)
  | unsetVariable (name : String)
  | changeEntry (name : String) (entry : Entry)
  /-- Looks up both credentials in the keychain. -/
  | lookUp
  /-- Fills in credentials from the keychain. -/
  | fillIn
  /-- Reads the configuration. -/
  | configure
  /-- Signs a question for the wallets. -/
  | sign
  /-- Makes a client, and calls it if that shows that credentials are missing. -/
  | connect

/-- What a step found. -/
inductive Finding where
  | nothing
  | lookups (found : List Attempt)
  | filled (credentials : List Credential)
  | configuration (result : Except WalletError Configuration)
  | signed (result : Except WalletError (Signer × Request))
  | connected (result : Except WalletError Client)

/-- What can be seen of a step. -/
structure Observation where
  finding : Finding
  opened : List Credential

namespace Observation

/-- A finding for which no entry was opened. -/
def ofFinding (finding : Finding) : Observation :=
  ⟨finding, []⟩

end Observation

namespace Surroundings

/-- A client that has both credentials, or the error of the first call of one that
has not. That call reaches no server. -/
def connect (surroundings : Surroundings) : Except WalletError Client := do
  let configuration ← configurationOf surroundings.environment
  let client ← Client.ofConfiguration surroundings.files surroundings.builds configuration
  if client.signer.isComplete then return client
  else
    let (outcome, _) := (client.service surroundings.source).call .wallets
      fun _ => .error .transport
    outcome.result.map fun _ => client

/-- The question for the wallets, signed as the environment says, with the signer.
Gives what is left of the source of nonces. -/
def sign (surroundings : Surroundings) :
    Except WalletError (Signer × Request) × NonceSource :=
  match configurationOf surroundings.environment with
  | .error error => (.error error, surroundings.source)
  | .ok configuration =>
    let signer := Signer.ofConfiguration configuration
    let (request, source) := signer.requestWithoutBody .read "wallets" surroundings.source
    (request.map fun request => (signer, request), source)

/-- Makes one step, and gives the surroundings that it leaves. -/
def step (surroundings : Surroundings) : Step → Observation × Surroundings
  | .setVariable name value =>
    let environment := surroundings.environment.set name value
    (.ofFinding .nothing, { surroundings with environment := environment })
  | .unsetVariable name =>
    let environment := surroundings.environment.unset name
    (.ofFinding .nothing, { surroundings with environment := environment })
  | .changeEntry name entry =>
    let keychain := surroundings.keychain.set name entry
    (.ofFinding .nothing, { surroundings with keychain := keychain })
  | .lookUp =>
    let attempts := Credential.all.map fun credential =>
      Attempt.mk credential (surroundings.keychain.lookup credential)
    (⟨.lookups attempts, Credential.all⟩, surroundings)
  | .fillIn =>
    let (environment, attempts) := surroundings.environment.fillFrom surroundings.keychain
    (⟨.filled (Settings.filledBy attempts), attempts.map Attempt.credential⟩,
      { surroundings with environment := environment })
  | .configure =>
    (.ofFinding (.configuration (configurationOf surroundings.environment)), surroundings)
  | .sign =>
    let (result, source) := surroundings.sign
    (.ofFinding (.signed result), { surroundings with source := source })
  | .connect => (.ofFinding (.connected surroundings.connect), surroundings)

/-- Makes steps one after the other. Each observation comes with the surroundings
that its step leaves. -/
def run (surroundings : Surroundings) : List Step → List (Observation × Surroundings)
  | [] => []
  | step :: rest =>
    let (observation, changed) := surroundings.step step
    (observation, changed) :: changed.run rest

end Surroundings

end ExchangeWallet
