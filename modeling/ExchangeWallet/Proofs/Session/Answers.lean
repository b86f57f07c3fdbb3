import ExchangeWallet.Http.Exchange
import ExchangeWallet.Proofs.Record.Rows
import ExchangeWallet.Proofs.Service.Classification
/-!
# What replies answer

A question for rows comes to what the reply says, and to an error of transport if there is no
reply. A reply is judged by its status and its text in the order in which the classification
has them. Then the payload is read row by row, and the first row that cannot be read decides.

Each way to go is stated here by itself, and together they are what the executor makes of a
reply and what an operation makes of the executor's payload. So a session can be described by
the replies that it gets.
-/
namespace ExchangeWallet

open Json (Value)
open Record (Shape expectArray slot)

namespace Reply

/-- What a reply means, or having none: a payload or an error. -/
inductive Means : Option Reply → Except WalletError Value → Prop
  | missing : Means none (.error .transport)
  /-- An error of the exchange counts under every status. -/
  | stated {reply : Reply} {row : List Value} (states : reply.StatesError row) :
      Means (some reply) (.error (.api (Record.integer (slot row 1)) (Record.text (slot row 2))))
  /-- Without one, a status outside of the two hundreds refuses the reply as it is. -/
  | refused {reply : Reply} (other : ∀ row, ¬ reply.StatesError row)
      (status : ¬ (200 ≤ reply.status ∧ reply.status ≤ 299)) :
      Means (some reply) (.error (.http reply.status reply.text))
  /-- Under a status of success the text has to be JSON. -/
  | unread {reply : Reply} {fault : Json.Fault}
      (status : 200 ≤ reply.status ∧ reply.status ≤ 299)
      (unread : Json.read reply.text = .error fault) :
      Means (some reply) (.error (.json fault))
  | read {reply : Reply} {payload : Value} (other : ∀ row, ¬ reply.StatesError row)
      (status : 200 ≤ reply.status ∧ reply.status ≤ 299)
      (read : Json.read reply.text = .ok payload) : Means (some reply) (.ok payload)

/-- The executor makes of a reply what it means, and a reply means nothing else. -/
theorem means_iff {exchange : Http.Exchange} {request : Signing.Request}
    {payload : Except WalletError Value} :
    Means (exchange request) payload ↔ Http.executor exchange request = payload := by
  rw [Http.executor]
  generalize exchange request = reply
  constructor
  · intro means
    cases means with
    | missing => rfl
    | stated states => exact payload_of_statesError states
    | refused other status =>
      exact (payload_of_not_statesError other).trans (if_neg (mt (isSuccess_iff _).mp status))
    | @unread reply fault status unread =>
      have other (row : List Value) : ¬ reply.StatesError row := by
        rintro ⟨read, -⟩
        cases unread.symm.trans read
      have judged := payload_of_not_statesError other
      rw [if_pos ((isSuccess_iff _).mpr status), unread] at judged
      exact judged
    | read other status read =>
      have judged := payload_of_not_statesError other
      rw [if_pos ((isSuccess_iff _).mpr status), read] at judged
      exact judged
  · rintro rfl
    cases reply with
    | none => exact .missing
    | some reply =>
      by_cases states : ∃ row, reply.StatesError row
      · obtain ⟨row, states⟩ := states
        simp only [payload_of_statesError states]
        exact .stated states
      · have other := not_exists.mp states
        simp only [payload_of_not_statesError other]
        split_ifs with success
        · have status := (isSuccess_iff reply.status).mp success
          cases found : Json.read reply.text with
          | error fault => exact .unread status found
          | ok payload => exact .read other status found
        · exact .refused other fun status => success ((isSuccess_iff reply.status).mpr status)

end Reply

section Rows

variable {Entry : Type}

/-- What reading a payload row by row comes to: the entries in the order of the rows, or what
is wrong with the payload or with the first row that cannot be read. -/
inductive ReadsRows (shape : Shape) (readRow : Value → Except Record.Fault Entry) :
    Value → Except Record.Fault (List Entry) → Prop
  | misshapen {payload : Value} (other : ∀ rows, payload ≠ .array rows) :
      ReadsRows shape readRow payload (.error (.notArray shape payload))
  | spoilt {front rest : List Value} {row : Value} {fault : Record.Fault}
      (readable : ∀ earlier ∈ front, ∃ entry, readRow earlier = .ok entry)
      (refused : readRow row = .error fault) :
      ReadsRows shape readRow (.array (front ++ row :: rest)) (.error fault)
  | read {rows : List Value} {entries : List Entry}
      (each : List.Forall₂ (fun row entry => readRow row = .ok entry) rows entries) :
      ReadsRows shape readRow (.array rows) (.ok entries)

/-- Rows are read by traversing them, and in no other way. -/
theorem readsRows_iff {shape : Shape} {readRow : Value → Except Record.Fault Entry}
    {payload : Value} {result : Except Record.Fault (List Entry)} :
    ReadsRows shape readRow payload result ↔
      (expectArray shape payload >>= fun rows => rows.mapM readRow) = result := by
  constructor
  · intro reads
    cases reads with
    | misshapen other =>
      cases payload with
      | array rows => exact absurd rfl (other rows)
      | _ => rfl
    | spoilt readable refused =>
      exact mapM_eq_error_iff.mpr ⟨_, _, _, rfl, readable, refused⟩
    | read each => exact mapM_eq_ok_iff.mpr each
  · rintro rfl
    cases payload with
    | array rows =>
      change ReadsRows shape readRow (.array rows) (rows.mapM readRow)
      cases traversed : rows.mapM readRow with
      | error fault =>
        obtain ⟨front, row, rest, rfl, readable, refused⟩ := mapM_eq_error_iff.mp traversed
        exact .spoilt readable refused
      | ok entries => exact .read (mapM_eq_ok_iff.mp traversed)
    | _ => exact .misshapen fun _ => nofun

/-- What a question for rows comes to with a reply, or without one. -/
inductive Gives (shape : Shape) (readRow : Value → Except Record.Fault Entry)
    (reply : Option Reply) : Except WalletError (List Entry) → Prop
  | failed {error : WalletError} (means : Reply.Means reply (.error error)) :
      Gives shape readRow reply (.error error)
  | undecoded {payload : Value} {fault : Record.Fault} (means : Reply.Means reply (.ok payload))
      (reads : ReadsRows shape readRow payload (.error fault)) :
      Gives shape readRow reply (.error (.decode fault))
  | shown {payload : Value} {entries : List Entry} (means : Reply.Means reply (.ok payload))
      (reads : ReadsRows shape readRow payload (.ok entries)) :
      Gives shape readRow reply (.ok entries)

/-- A question for rows comes to the rows in the executor's payload, and to nothing else. -/
theorem gives_iff {shape : Shape} {readRow : Value → Except Record.Fault Entry}
    {exchange : Http.Exchange} {request : Signing.Request}
    {result : Except WalletError (List Entry)} :
    Gives shape readRow (exchange request) result ↔
      (Http.executor exchange request >>= fun payload =>
        (expectArray shape payload >>= fun rows => rows.mapM readRow).mapError .decode) =
          result := by
  constructor
  · intro gives
    cases gives with
    | failed means =>
      rw [Reply.means_iff.mp means]
      rfl
    | undecoded means reads =>
      rw [Reply.means_iff.mp means]
      exact congrArg (Except.mapError WalletError.decode) (readsRows_iff.mp reads)
    | shown means reads =>
      rw [Reply.means_iff.mp means]
      exact congrArg (Except.mapError WalletError.decode) (readsRows_iff.mp reads)
  · rintro rfl
    cases answered : Http.executor exchange request with
    | error error => exact .failed (Reply.means_iff.mpr answered)
    | ok payload =>
      change Gives shape readRow (exchange request) (Except.mapError .decode _)
      cases traversed : expectArray shape payload >>= fun rows => rows.mapM readRow with
      | error fault => exact .undecoded (Reply.means_iff.mpr answered) (readsRows_iff.mpr traversed)
      | ok entries => exact .shown (Reply.means_iff.mpr answered) (readsRows_iff.mpr traversed)

end Rows

section Questions

/-- The answer to the question for the wallets is read row by row. -/
theorem wallets_decode (payload : Value) :
    Operation.wallets.decode payload =
      ((expectArray .walletSnapshot payload >>= fun rows =>
        rows.mapM Record.Wallet.ofValue).mapError .decode).map fun wallets =>
          .snapshot ⟨wallets⟩ := by
  cases payload with
  | array rows =>
    change ((rows.mapM Record.Wallet.ofValue >>= fun wallets => pure ⟨wallets⟩).map
      Answer.snapshot).mapError WalletError.decode =
        ((rows.mapM Record.Wallet.ofValue).mapError WalletError.decode).map _
    cases rows.mapM Record.Wallet.ofValue <;> rfl
  | _ => rfl

/-- The answer to a question for movements is read row by row. -/
theorem movements_decode (start stop : Option Int64) (limit : Option UInt32) (payload : Value) :
    (Operation.movements start stop limit).decode payload =
      ((expectArray .movements payload >>= fun rows =>
        rows.mapM Record.Movement.ofValue).mapError .decode).map .history := by
  cases payload with
  | array rows =>
    change ((rows.mapM Record.Movement.ofValue).map Answer.history).mapError WalletError.decode =
      ((rows.mapM Record.Movement.ofValue).mapError WalletError.decode).map _
    cases rows.mapM Record.Movement.ofValue <;> rfl
  | _ => rfl

/-- A question whose answer is read row by row comes to what the reply gives. -/
theorem exists_gives {Entry : Type} {shape : Shape}
    {readRow : Value → Except Record.Fault Entry} {operation : Operation}
    {toAnswer : List Entry → Answer}
    (decodes : ∀ payload, operation.decode payload =
      ((expectArray shape payload >>= fun rows =>
        rows.mapM readRow).mapError .decode).map toAnswer)
    (exchange : Http.Exchange) (request : Signing.Request) :
    ∃ result, Gives shape readRow (exchange request) result ∧
      Http.executor exchange request >>= operation.decode = result.map toAnswer := by
  refine ⟨_, gives_iff.mpr rfl, ?_⟩
  cases Http.executor exchange request with
  | error error => rfl
  | ok payload => exact decodes payload

end Questions

end ExchangeWallet
