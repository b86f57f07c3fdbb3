import ExchangeWallet.Proofs.Json.RoundTrip
import ExchangeWallet.Proofs.Service.Call
import ExchangeWallet.Reply
/-!
# Classification of replies

A reply is looked at in four steps, and the first one that settles it counts: whether it
states an error of the exchange, whether its status refuses the request, whether it is
JSON, and whether it has the shape of the record that was asked for. So an error of the
exchange is reported as such under every status, and only what is none of the exchange's
errors can be reported by its status, by its text or by its shape.

A list of rows is no error of the exchange, for its first item is a row and not a string.
-/
namespace ExchangeWallet

open Json (Value)
open Record (slot)
open Signing (Request)

/-- A reply is an array that opens with the string `error`, whatever follows. -/
def Reply.StatesError (reply : Reply) (row : List Value) : Prop :=
  Json.read reply.text = .ok (.array row) ∧ row.head? = some (.string "error")

/-- The record that an operation asks for, in a payload. -/
def Operation.record : Operation → Value → Except Record.Fault Answer
  | wallets, payload => (Record.Snapshot.ofValue payload).map .snapshot
  | movements _ _ _, payload => (Record.Movement.historyOfValue payload).map .history
  | _, payload => (Record.Notification.ofValue payload).map .notification

/-- Decoding gives the record, or its fault as an error of shape. -/
theorem Operation.decode_eq (operation : Operation) (payload : Value) :
    operation.decode payload = (operation.record payload).mapError .decode := by
  cases operation <;> simp only [decode, record]

namespace Reply

/-- The first slot holds a string exactly if the row opens with it. -/
theorem string?_slot_zero (row : List Value) (text : String) :
    (slot row 0).string? = some text ↔ row.head? = some (.string text) := by
  cases row with
  | nil => simp [slot, Value.string?]
  | cons first rest => cases first <;> simp [slot, Value.string?]

/-- An array that opens with the string `error` states the error in its next two slots. -/
theorem apiError?_array {row : List Value} (opens : row.head? = some (.string "error")) :
    apiError? (.array row) =
      some (.api (Record.integer (slot row 1)) (Record.text (slot row 2))) := by
  rw [apiError?, if_pos ((string?_slot_zero row "error").mpr opens)]

/-- No other value states an error. -/
theorem apiError?_eq_none {value : Value}
    (other : ∀ row, value = .array row → row.head? ≠ some (.string "error")) :
    apiError? value = none := by
  cases value with
  | array row =>
    have unlike : ¬ (slot row 0).string? = some "error" := by
      intro opens
      exact other row rfl ((string?_slot_zero row "error").mp opens)
    rw [apiError?, if_neg unlike]
  | _ => rfl

variable {reply : Reply}

/-- A reply that states an error has that error for a payload, whatever its status is. -/
theorem payload_of_statesError {row : List Value} (states : reply.StatesError row) :
    reply.payload = .error (.api (Record.integer (slot row 1)) (Record.text (slot row 2))) := by
  obtain ⟨read, opens⟩ := states
  simp [payload, read, Except.toOption, apiError?_array opens]

/-- Of any other reply the status decides, and behind it the text. -/
theorem payload_of_not_statesError (other : ∀ row, ¬ reply.StatesError row) :
    reply.payload = if isSuccess reply.status then (Json.read reply.text).mapError .json
      else .error (.http reply.status reply.text) := by
  have none : (Json.read reply.text).toOption.bind apiError? = none := by
    cases read : Json.read reply.text with
    | error fault => rfl
    | ok value =>
      apply apiError?_eq_none
      rintro row rfl opens
      exact other row ⟨read, opens⟩
  rw [payload, none]

/-- The statuses of success are the two hundreds. -/
theorem isSuccess_iff (status : Nat) : isSuccess status = true ↔ 200 ≤ status ∧ status ≤ 299 := by
  rw [isSuccess, Bool.and_eq_true, decide_eq_true_eq, decide_eq_true_eq, Nat.lt_succ_iff]

end Reply

/-- A list whose first item is refused is refused. -/
theorem mapM_of_head {Item Fault Made : Type} {row : List Item} {first : Item} {fault : Fault}
    {make : Item → Except Fault Made} (opens : row.head? = some first)
    (refused : make first = .error fault) : row.mapM make = .error fault := by
  obtain ⟨rest, rfl⟩ := List.head?_eq_some_iff.mp opens
  rw [List.mapM_cons, refused]
  rfl

/-- A row that opens with a string is no snapshot and no history. -/
theorem rows_of_string {row : List Value} {text : String}
    (opens : row.head? = some (.string text)) :
    (∃ fault, Record.Snapshot.ofValue (.array row) = .error fault) ∧
      ∃ fault, Record.Movement.historyOfValue (.array row) = .error fault := by
  constructor
  · refine ⟨.notArray .wallet (.string text), ?_⟩
    have rows : row.mapM Record.Wallet.ofValue = .error (.notArray .wallet (.string text)) :=
      mapM_of_head opens rfl
    change (row.mapM Record.Wallet.ofValue >>= fun wallets => pure (Record.Snapshot.mk wallets)) = _
    rw [rows]
    rfl
  · exact ⟨.notArray .movement (.string text), mapM_of_head opens rfl⟩

/-- A value that can be read as a snapshot or a history is no error of the exchange. -/
theorem not_statesError_of_rows {reply : Reply} {payload : Value}
    (read : Json.read reply.text = .ok payload)
    (accepted : (∃ snapshot, Record.Snapshot.ofValue payload = .ok snapshot) ∨
      ∃ history, Record.Movement.historyOfValue payload = .ok history) (row : List Value) :
    ¬ reply.StatesError row := by
  rintro ⟨readRow, opens⟩
  obtain rfl : payload = .array row := Except.ok.inj (read.symm.trans readRow)
  obtain ⟨⟨fault, noSnapshot⟩, ⟨otherFault, noHistory⟩⟩ := rows_of_string opens
  rcases accepted with ⟨snapshot, isSnapshot⟩ | ⟨history, isHistory⟩
  · rw [noSnapshot] at isSnapshot
    cases isSnapshot
  · rw [noHistory] at isHistory
    cases isHistory

section Result

variable (operation : Operation) {reply : Reply}

/-- An error of the exchange is what a call comes to, under every status. -/
theorem result_of_statesError {row : List Value} (states : reply.StatesError row) :
    reply.payload >>= operation.decode =
      .error (.api (Record.integer (slot row 1)) (Record.text (slot row 2))) := by
  rw [Reply.payload_of_statesError states]
  rfl

/-- Without such an error, a status outside of the two hundreds refuses the reply as it is. -/
theorem result_of_refused (other : ∀ row, ¬ reply.StatesError row)
    (refused : ¬ (200 ≤ reply.status ∧ reply.status ≤ 299)) :
    reply.payload >>= operation.decode = .error (.http reply.status reply.text) := by
  rw [← Reply.isSuccess_iff] at refused
  rw [Reply.payload_of_not_statesError other, if_neg refused]
  rfl

/-- Without such an error, a status of success leaves it to the text and the record. -/
theorem result_of_success (other : ∀ row, ¬ reply.StatesError row)
    (success : 200 ≤ reply.status ∧ reply.status ≤ 299) :
    reply.payload >>= operation.decode =
      ((Json.read reply.text).mapError .json >>= fun payload =>
        (operation.record payload).mapError .decode) := by
  rw [← Reply.isSuccess_iff] at success
  rw [Reply.payload_of_not_statesError other, if_pos success, funext operation.decode_eq]

/-- Only an error of the exchange is reported as one. -/
theorem result_ne_api (other : ∀ row, ¬ reply.StatesError row) (code : Int) (message : String) :
    reply.payload >>= operation.decode ≠ .error (.api code message) := by
  by_cases success : 200 ≤ reply.status ∧ reply.status ≤ 299
  · rw [result_of_success operation other success]
    cases Json.read reply.text with
    | error fault => simp [Except.mapError, bind, Except.bind]
    | ok payload =>
      cases recorded : operation.record payload <;>
        simp [Except.mapError, bind, Except.bind, recorded]
  · rw [result_of_refused operation other success]
    simp

/-- A record is only had of a status of success. -/
theorem success_of_result_ok {answer : Answer}
    (decoded : reply.payload >>= operation.decode = .ok answer) :
    200 ≤ reply.status ∧ reply.status ≤ 299 := by
  by_cases states : ∃ row, reply.StatesError row
  · obtain ⟨row, states⟩ := states
    rw [result_of_statesError operation states] at decoded
    cases decoded
  · by_contra refused
    rw [result_of_refused operation (not_exists.mp states) refused] at decoded
    cases decoded

end Result

/-- What a call that gets as far as sending comes to is settled by the reply. An error of
the exchange comes first, then the status, then whether the text is JSON, and then the
shape of the record. Hence a record comes of a status of success only, and a list that can
be read as a snapshot or a history is never taken for an error of the exchange. -/
theorem reply_settles_result (service : Service) (operation : Operation) (executor : Executor)
    (reply : Reply) {request : Request}
    (sent : request ∈ (service.call operation executor).1.sent)
    (answered : executor request = reply.payload) :
    let result := (service.call operation executor).1.result
    (∀ row, reply.StatesError row →
      result = .error (.api (Record.integer (slot row 1)) (Record.text (slot row 2)))) ∧
    ((∀ row, ¬ reply.StatesError row) →
      (¬ (200 ≤ reply.status ∧ reply.status ≤ 299) →
        result = .error (.http reply.status reply.text)) ∧
      (200 ≤ reply.status ∧ reply.status ≤ 299 →
        (∀ fault, Json.read reply.text = .error fault → result = .error (.json fault)) ∧
        ∀ payload, Json.read reply.text = .ok payload →
          result = (operation.record payload).mapError .decode)) ∧
    (∀ answer, result = .ok answer → 200 ≤ reply.status ∧ reply.status ≤ 299) ∧
    ∀ payload, Json.read reply.text = .ok payload →
      (∃ snapshot, Record.Snapshot.ofValue payload = .ok snapshot) ∨
        (∃ history, Record.Movement.historyOfValue payload = .ok history) →
      ∀ code message, result ≠ .error (.api code message) := by
  intro result
  have comes : result = reply.payload >>= operation.decode := by
    rw [← answered]
    exact service.result_of_sent executor sent
  rw [comes]
  refine ⟨fun row => result_of_statesError operation, ?_,
    fun answer => success_of_result_ok operation, ?_⟩
  · intro other
    refine ⟨result_of_refused operation other, ?_⟩
    intro success
    rw [result_of_success operation other success]
    constructor
    · intro fault unread
      rw [unread]
      rfl
    · intro payload read
      rw [read]
      rfl
  · intro payload read accepted
    exact result_ne_api operation (not_statesError_of_rows read accepted)

/-- A withdrawal that the exchange rejects with a status of success is reported with the
code and the message of the rejection. -/
theorem rejected_withdrawal_is_no_success :
    let service := Service.start (.ofParts "http://localhost" (some "key") (some "secret"))
      ⟨.epoch, 41⟩
    let reply : Reply := ⟨200, "[\"error\",10001,\"balance\"]"⟩
    let outcome := (service.call (.withdraw ⟨"exchange", "bitcoin",
      ⟨false, 150, 2, by decide, by decide⟩, "bc1", none⟩) fun _ => reply.payload).1
    (∃ request, outcome.sent = [request]) ∧ outcome.result = .error (.api 10001 "balance") := by
  intro service reply outcome
  let row : List Value := [.string "error", .number (.whole 10001 (by decide)), .string "balance"]
  have text : (Value.array row).compact = reply.text := by decide
  have exact : Json.Exact Json.maxDepth (.array row) := by
    refine .array (Json.maxDepth - 1) row ?_
    simp only [row, List.forall_mem_cons]
    exact ⟨.string _ _, .whole _ _ _, .string _ _, by simp⟩
  have states : reply.StatesError row := by
    refine ⟨?_, rfl⟩
    rw [← text]
    exact exact.read_compact
  obtain ⟨request, sent⟩ : ∃ request, outcome.sent = [request] :=
    ⟨_, (service.sent_eq_singleton_iff _ _ _).mpr ⟨"key", "secret", _, rfl, rfl, rfl, rfl⟩⟩
  have member : request ∈ outcome.sent := sent ▸ List.mem_singleton_self request
  exact ⟨⟨request, sent⟩, (reply_settles_result service _ _ reply member rfl).1 row states⟩

end ExchangeWallet
