import ExchangeWallet.Json.Reader
import ExchangeWallet.Record.Slot
import ExchangeWallet.WalletError
/-!
# Replies

A reply is a status and a text. An error of the exchange is an array that starts
with the string `error`, and it counts whatever the status is. Any other reply with
a status outside the two hundreds is refused as it is. What remains has to be JSON,
and is the payload.
-/
namespace ExchangeWallet

open Json (Value)

/-- What a server answers. -/
structure Reply where
  status : Nat
  text : String
deriving DecidableEq

namespace Reply

/-- The error that a value states, if it is an error of the exchange: its code is in
the second slot and its message in the third. -/
def apiError? : Value → Option WalletError
  | .array row =>
    if (Record.slot row 0).string? = some "error" then
      some (.api (Record.integer (Record.slot row 1)) (Record.text (Record.slot row 2)))
    else none
  | _ => none

/-- Whether a status tells of success. -/
def isSuccess (status : Nat) : Bool :=
  200 ≤ status && status < 300

/-- The payload of a reply, or the error that it means. -/
def payload (reply : Reply) : Except WalletError Value :=
  let body := Json.read reply.text
  match body.toOption.bind apiError? with
  | some error => .error error
  | none =>
    if isSuccess reply.status then body.mapError .json
    else .error (.http reply.status reply.text)

end Reply

end ExchangeWallet
