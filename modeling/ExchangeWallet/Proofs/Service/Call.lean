import ExchangeWallet.Proofs.Signing.Completeness
import ExchangeWallet.Proofs.Signing.Request
import ExchangeWallet.Service
/-!
# What a call sends

A call sends one request at most, and it sends one exactly when its operation can be
drafted and the signer has both credentials. The request is then the draft, composed
with the credentials and the next nonce of the service. The executor has no part in
this; it is given the request and decides on the result alone.

Each part of a call is described by its result and by what it puts on record, and the ways
for a call to go are put together from these.

A run is taken apart at any of its calls: what stands at that place of its outcomes is
the outcome of the call, made on the service that the calls before it leave.
-/
namespace ExchangeWallet.Service

open Signing (Request Signer)

/-- The request that a service would send next for a draft, with these credentials. -/
def composed (service : Service) (key secret : String) (draft : Draft) : Request :=
  Signer.compose service.signer.baseUrl key secret draft.permission draft.endpoint draft.body
    service.source.issue.1

section Errand

variable {First Second : Type} {first : Errand First} {ledger left : Ledger}

/-- A result is passed on with nothing put on record. -/
theorem ofExcept_run (result : Except WalletError First) :
    (MonadExcept.ofExcept result : Errand First).run.run ledger = (result, ledger) := by
  cases result <;> rfl

/-- What follows a part that succeeds goes on with its record. -/
theorem bind_run_of_ok {value : First} (succeeds : first.run.run ledger = (.ok value, left))
    (next : First → Errand Second) :
    (first >>= next).run.run ledger = (next value).run.run left := by
  rw [ExceptT.run_bind, StateT.run_bind, succeeds]
  rfl

/-- Nothing follows a part that fails. -/
theorem bind_run_of_error {error : WalletError}
    (fails : first.run.run ledger = (.error error, left)) (next : First → Errand Second) :
    (first >>= next).run.run ledger = (.error error, left) := by
  rw [ExceptT.run_bind, StateT.run_bind, fails]
  rfl

/-- What only works on the value of a part leaves its record. -/
theorem bind_ofExcept_run {result : Except WalletError First}
    (came : first.run.run ledger = (result, left)) (next : First → Except WalletError Second) :
    (first >>= fun value => MonadExcept.ofExcept (next value)).run.run ledger =
      (result >>= next, left) := by
  cases result with
  | error error => exact bind_run_of_error came _
  | ok value =>
    rw [bind_run_of_ok came, ofExcept_run]
    rfl

/-- Asking for a request counts, and has the signer's answer. -/
theorem ask_run (draft : Draft) (ledger : Ledger) :
    let service := ledger.service
    let requested :=
      service.signer.request draft.permission draft.endpoint draft.body service.source
    (ask draft).run.run ledger =
      (requested.1, { ledger with
        service := { service with source := requested.2, built := service.built + 1 } }) :=
  ofExcept_run _

/-- Sending puts the request on record, and has the executor's answer. -/
theorem send_run (executor : Executor) (request : Request) (ledger : Ledger) :
    (send executor request).run.run ledger =
      (executor request, { ledger with sent := ledger.sent ++ [request] }) :=
  ofExcept_run _

end Errand

section Call

variable (service : Service) {operation : Operation} (executor : Executor)

/-- A call that cannot be drafted leaves the service as it was. -/
theorem call_of_refused {error : WalletError} (refused : operation.draft = .error error) :
    service.call operation executor = (⟨.error error, []⟩, service) := by
  rw [call, perform, refused, bind_run_of_error (ofExcept_run _)]

/-- A call that can be drafted asks for one request, and goes on with it if it gets it. -/
theorem call_of_draft {draft : Draft} (drafted : operation.draft = .ok draft) :
    let requested :=
      service.signer.request draft.permission draft.endpoint draft.body service.source
    service.call operation executor =
      (⟨requested.1 >>= fun request => executor request >>= operation.decode,
          requested.1.toOption.toList⟩,
        { service with source := requested.2, built := service.built + 1 }) := by
  intro requested
  have asked : (ask draft).run.run ⟨service, []⟩ = (requested.1,
      ⟨{ service with source := requested.2, built := service.built + 1 }, []⟩) :=
    ask_run draft _
  rw [call, perform, drafted, bind_run_of_ok (ofExcept_run _)]
  cases came : requested.1 with
  | error error =>
    rw [came] at asked
    rw [bind_run_of_error asked]
    rfl
  | ok request =>
    rw [came] at asked
    rw [bind_run_of_ok asked, bind_ofExcept_run (send_run ..)]
    rfl

/-- A call of a signer that lacks a credential asks for a request and gets none. -/
theorem call_of_incomplete {draft : Draft} (drafted : operation.draft = .ok draft)
    (incomplete : service.signer.isComplete = false) :
    service.call operation executor =
      (⟨.error .unsigned, []⟩, { service with built := service.built + 1 }) := by
  rw [service.call_of_draft executor drafted, Signer.request_of_incomplete _ _ _ _ incomplete]
  rfl

/-- A call of a complete signer sends its request and decodes what the executor makes of
it. One request was asked for and one nonce is used up, whatever that is. -/
theorem call_of_complete {draft : Draft} {key secret : String}
    (drafted : operation.draft = .ok draft) (hasKey : service.signer.key = some key)
    (hasSecret : service.signer.secret = some secret) :
    service.call operation executor =
      (⟨executor (service.composed key secret draft) >>= operation.decode,
          [service.composed key secret draft]⟩,
        { service with source := service.source.issue.2, built := service.built + 1 }) := by
  rw [service.call_of_draft executor drafted,
    Signer.request_of_complete _ _ _ _ hasKey hasSecret]
  rfl

/-- There are three ways for a call to go. -/
theorem call_cases (operation : Operation) :
    (∃ error, operation.draft = .error error) ∨
      (∃ draft, operation.draft = .ok draft ∧ service.signer.isComplete = false) ∨
      ∃ draft key secret, operation.draft = .ok draft ∧ service.signer.key = some key ∧
        service.signer.secret = some secret := by
  cases drafted : operation.draft with
  | error error => exact .inl ⟨error, rfl⟩
  | ok draft =>
    cases complete : service.signer.isComplete with
    | false => exact .inr (.inl ⟨draft, rfl, rfl⟩)
    | true =>
      obtain ⟨key, secret, hasKey, hasSecret⟩ := Signer.credentials_of_isComplete complete
      exact .inr (.inr ⟨draft, key, secret, rfl, hasKey, hasSecret⟩)

/-- No call changes the signer. -/
theorem call_signer (operation : Operation) :
    (service.call operation executor).2.signer = service.signer := by
  rcases service.call_cases operation with
    ⟨error, refused⟩ | ⟨draft, drafted, incomplete⟩ |
    ⟨draft, key, secret, drafted, hasKey, hasSecret⟩
  · rw [service.call_of_refused executor refused]
  · rw [service.call_of_incomplete executor drafted incomplete]
  · rw [service.call_of_complete executor drafted hasKey hasSecret]

/-- What a call sends is the composed draft of its operation, once. -/
theorem sent_eq_singleton_iff (operation : Operation) (request : Request) :
    (service.call operation executor).1.sent = [request] ↔
      ∃ key secret draft, service.signer.key = some key ∧ service.signer.secret = some secret ∧
        operation.draft = .ok draft ∧ request = service.composed key secret draft := by
  rcases service.call_cases operation with
    ⟨error, refused⟩ | ⟨draft, drafted, incomplete⟩ |
    ⟨draft, key, secret, drafted, hasKey, hasSecret⟩
  · rw [service.call_of_refused executor refused]
    simp [refused]
  · rw [service.call_of_incomplete executor drafted incomplete]
    refine ⟨nofun, ?_⟩
    rintro ⟨key, secret, _, hasKey, hasSecret, _⟩
    simp [Signer.isComplete, hasKey, hasSecret] at incomplete
  · rw [service.call_of_complete executor drafted hasKey hasSecret]
    simp [hasKey, hasSecret, drafted, eq_comm]

/-- A request that a call sends is the only one. -/
theorem mem_sent_iff (operation : Operation) (request : Request) :
    request ∈ (service.call operation executor).1.sent ↔
      (service.call operation executor).1.sent = [request] := by
  refine ⟨?_, fun only => by simp [only]⟩
  rcases service.call_cases operation with
    ⟨error, refused⟩ | ⟨draft, drafted, incomplete⟩ |
    ⟨draft, key, secret, drafted, hasKey, hasSecret⟩
  · rw [service.call_of_refused executor refused]
    nofun
  · rw [service.call_of_incomplete executor drafted incomplete]
    nofun
  · rw [service.call_of_complete executor drafted hasKey hasSecret]
    intro member
    rw [List.mem_singleton.mp member]

/-- A request that a call sends is the composed draft of its operation. -/
theorem exists_of_mem_sent {request : Request}
    (sent : request ∈ (service.call operation executor).1.sent) :
    ∃ key secret draft, service.signer.key = some key ∧ service.signer.secret = some secret ∧
      operation.draft = .ok draft ∧ request = service.composed key secret draft :=
  (service.sent_eq_singleton_iff executor operation request).mp
    ((service.mem_sent_iff executor operation request).mp sent)

/-- A call that sends a request comes to what is decoded of the executor's answer to it. -/
theorem result_of_sent {request : Request}
    (sent : request ∈ (service.call operation executor).1.sent) :
    (service.call operation executor).1.result = executor request >>= operation.decode := by
  obtain ⟨key, secret, draft, hasKey, hasSecret, drafted, rfl⟩ :=
    service.exists_of_mem_sent executor sent
  rw [service.call_of_complete executor drafted hasKey hasSecret]

end Call

section Run

variable (before later : List (Operation × Executor)) (call : Operation × Executor)

/-- No run changes the signer. -/
theorem run_signer (service : Service) : (service.run before).2.signer = service.signer := by
  induction before generalizing service with
  | nil => rfl
  | cons first rest inductionHypothesis =>
    have same : (service.call first.1 first.2).2.signer = service.signer :=
      service.call_signer first.2 first.1
    rw [← same]
    exact inductionHypothesis (service.call first.1 first.2).2

/-- The outcome at a place of a run is that of the call at this place, made on the service
that the calls before it leave. -/
theorem run_at (service : Service) :
    let reached := (service.run before).2.call call.1 call.2
    (service.run (before ++ call :: later)).1[before.length]? =
      some (reached.1, reached.2.built) := by
  induction before generalizing service with
  | nil => rfl
  | cons first rest inductionHypothesis =>
    -- The place moves on by one with the first call, and so does the service.
    exact inductionHypothesis (service.call first.1 first.2).2

end Run

end ExchangeWallet.Service
