import ExchangeWallet.Operation
/-!
# The wallet service

A call drafts a request, has it signed, sends it and decodes the payload. It ends
with the first error on this way, and an error of the executor is passed on as it
is. Nothing is kept between calls but the source of the nonces and the number of
requests that were asked for.

Whoever is called in the course of this puts it on record: the signer counts what it is
asked for, and the executor lists what it is given.
-/
namespace ExchangeWallet

open Json (Value)
open Signing (NonceSource Request Signer)

/-- Whatever sends a request and gives the payload of its reply. -/
abbrev Executor :=
  Request → Except WalletError Value

/-- A signer, its nonces, and the number of requests it was asked for. -/
structure Service where
  signer : Signer
  source : NonceSource
  built : Nat

/-- What a call came to, and the requests that were sent for it. -/
structure Outcome where
  result : Except WalletError Answer
  sent : List Request

/-- What is on record while a call is made: the service as it is by then, and the requests
that the executor was given so far. -/
structure Ledger where
  service : Service
  sent : List Request

/-- A part of a call, which may fail. What it has put on record stays there. -/
abbrev Errand :=
  ExceptT WalletError (StateM Ledger)

namespace Service

/-- A service that has not been called. -/
def start (signer : Signer) (source : NonceSource) : Service :=
  ⟨signer, source, 0⟩

/-- Asks the signer for a request. This counts, whatever comes of it. -/
def ask (draft : Draft) : Errand Request := do
  let ledger ← get
  let service := ledger.service
  let (request, source) :=
    service.signer.request draft.permission draft.endpoint draft.body service.source
  set { ledger with service := { service with source := source, built := service.built + 1 } }
  MonadExcept.ofExcept request

/-- Gives a request to an executor. This is on record, whatever comes of it. -/
def send (executor : Executor) (request : Request) : Errand Value := do
  modify fun ledger => { ledger with sent := ledger.sent ++ [request] }
  MonadExcept.ofExcept (executor request)

/-- Carries out an operation. -/
def perform (operation : Operation) (executor : Executor) : Errand Answer := do
  let draft ← MonadExcept.ofExcept operation.draft
  let request ← ask draft
  let payload ← send executor request
  MonadExcept.ofExcept (operation.decode payload)

/-- Makes one call. -/
def call (service : Service) (operation : Operation) (executor : Executor) :
    Outcome × Service :=
  let (result, ledger) := (perform operation executor).run.run ⟨service, []⟩
  (⟨result, ledger.sent⟩, ledger.service)

/-- Makes calls one after the other. Each outcome comes with the number of requests
that were asked for up to it. -/
def run (service : Service) : List (Operation × Executor) → List (Outcome × Nat) × Service
  | [] => ([], service)
  | (operation, executor) :: rest =>
    let (outcome, called) := service.call operation executor
    let (outcomes, final) := called.run rest
    ((outcome, called.built) :: outcomes, final)

end Service

end ExchangeWallet
