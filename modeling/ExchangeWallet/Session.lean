import ExchangeWallet.Http.Exchange
import ExchangeWallet.Log.Event
import ExchangeWallet.Surroundings
/-!
# A session

A session shows an account: it fills in credentials from the keychain, reads the
configuration, asks for the wallets and, if that went well, for the latest
movements. It stops at the first error. The report of a session has everything that
can be seen of it from outside, in order.

The exchanges that a session gets into are numbered, and whatever comes of its first
request is settled by the first of them, and so on.
-/
namespace ExchangeWallet

open Http (Exchange)
open Log (Event)
open Settings (Attempt Environment)
open Signing (Request)

/-- What can be seen of a session. -/
structure Report where
  events : List Event
  /-- The requests that the HTTP library was handed, each with the reply that came of it. -/
  exchanged : List (Request × Option Reply)
  result : Except WalletError Unit

namespace Report

/-- The report of a part that did nothing but fail or succeed. -/
def ofResult (result : Except WalletError Unit) : Report :=
  ⟨[], [], result⟩

/-- The report of a part that came after events and exchanges of its own. -/
def behind (report : Report) (events : List Event)
    (exchanged : List (Request × Option Reply)) : Report :=
  { report with
    events := events ++ report.events
    exchanged := exchanged ++ report.exchanged }

/-- The requests that the HTTP library was handed. -/
def sent (report : Report) : List Request :=
  report.exchanged.map Prod.fst

/-- The exit code of a program that ran the session. -/
def exitCode (report : Report) : Nat :=
  match report.result with
  | .ok _ => 0
  | .error _ => 1

/-- What such a program complains about in the end. -/
def complaint (report : Report) : String :=
  match report.result with
  | .ok _ => ""
  | .error error => s!"Error: {error.inspect}\n"

end Report

namespace Session

/-- How many movements a session asks for. -/
def movementCount : UInt32 :=
  25

/-- The events of one attempt to look up a credential. -/
def attemptEvents (attempt : Attempt) : List Event :=
  match attempt.lookup with
  | .failed fault => [.unreadableEntry attempt.credential fault]
  | .nothing => []
  | .found text => if text = "" then [] else [.credentialLoaded attempt.credential]

/-- The events of filling in credentials: first what was looked up, then what will be
used. -/
def fillEvents (attempts : List Attempt) : List Event :=
  attempts.flatMap attemptEvents ++ (Settings.filledBy attempts).map Event.credentialUsed

/-- The events of one exchange: that it begins, and that a reply has arrived. -/
def exchangeEvents (sending : Event) : Request × Option Reply → List Event
  | (request, some reply) => [sending, .received request.path reply.status]
  | (_, none) => [sending]

/-- The events that show an answer. -/
def answerEvents : Answer → List Event
  | .snapshot snapshot => snapshot.wallets.map Event.wallet
  | .history movements => movements.map Event.movement
  | .notification _ => []

/-- Makes calls in turn, each with its event and the next exchange, until one fails. -/
def calls (service : Service) (exchanges : Nat → Exchange) : List (Event × Operation) → Report
  | [] => Report.ofResult (.ok ())
  | (sending, operation) :: rest =>
    let (outcome, service) := service.call operation (Http.executor (exchanges 0))
    let exchanged := outcome.sent.map fun request => (request, exchanges 0 request)
    let events := exchanged.flatMap (exchangeEvents sending)
    match outcome.result with
    | .error error => (Report.ofResult (.error error)).behind events exchanged
    | .ok answer =>
      (calls service (fun later => exchanges (later + 1)) rest).behind
        (events ++ answerEvents answer) exchanged

/-- The calls of a session. -/
def program : List (Event × Operation) :=
  [(.sendingWallets, .wallets),
    (.sendingMovements none none (some movementCount), .movements none none (some movementCount))]

/-- What follows once the credentials are filled in. -/
def proceed (surroundings : Surroundings) (exchanges : Nat → Exchange) : Report :=
  let client :=
    configurationOf surroundings.environment >>=
      Client.ofConfiguration surroundings.files surroundings.builds
  match client with
  | .error error => Report.ofResult (.error error)
  | .ok client => calls (client.service surroundings.source) exchanges program

/-- The report of a session. -/
def run (surroundings : Surroundings) (exchanges : Nat → Exchange) : Report :=
  let (environment, attempts) := surroundings.environment.fillFrom surroundings.keychain
  let report := proceed { surroundings with environment := environment } exchanges
  report.behind (fillEvents attempts) []

end Session

end ExchangeWallet
