import ExchangeWallet.Proofs.Operation.Body
import ExchangeWallet.Proofs.Signing.NonceLaw
/-!
# Accounting of calls

Every call is accounted for by the operation and the credentials, before the executor is
heard. A limit that is too high ends the call before a request is asked for, a missing
credential ends it before the request is made, and any other call sends one request with
one nonce. The executor decides what the last kind of call comes to, and nothing else.

What a service keeps between calls is the source of its nonces and a count, and neither
reaches the result of a call. So a call comes to the same wherever it stands in a run.
-/
namespace ExchangeWallet

open Signing (NonceSource Request Signer)

namespace Service

/-- What a call comes to on a service whose signer was made from two credentials, and
what it leaves, for every executor. -/
structure Accounted (key secret : Option String) (service : Service) (operation : Operation) :
    Prop where
  /-- A limit that is too high is refused. No request is asked for, the executor is not
  heard, and the clock and the last nonce are left, whatever the credentials are. -/
  refused : ∀ start stop count, operation = .movements start stop (some count) →
    1000 < count.toNat → ∀ executor,
    service.call operation executor = (⟨.error (.limitTooHigh count.toNat), []⟩, service)
  /-- Otherwise one request is asked for. Where a credential is missing, the request is not
  made and the executor is not heard, and the clock and the last nonce are left. -/
  unsigned : operation.IsWithinLimit → Signer.IsMissing key ∨ Signer.IsMissing secret →
    ∀ executor, service.call operation executor =
      (⟨.error .unsigned, []⟩, { service with built := service.built + 1 })
  /-- With both credentials one request is sent. It takes one nonce, and the result is the
  executor's error as it is, or the decoded payload. -/
  signed : operation.IsWithinLimit → ¬ Signer.IsMissing key → ¬ Signer.IsMissing secret →
    ∃ request, request.nonce? = some service.source.issue.1.toNat ∧
      ∀ executor, ∃ result,
        service.call operation executor =
          (⟨result, [request]⟩,
            { service with source := service.source.issue.2, built := service.built + 1 }) ∧
        (∀ error, executor request = .error error → result = .error error) ∧
        ∀ payload, executor request = .ok payload → result = operation.decode payload

/-- Every call is accounted for. -/
theorem accounted (baseUrl : String) (key secret : Option String) {service : Service}
    (made : service.signer = .ofParts baseUrl key secret) (operation : Operation) :
    Accounted key secret service operation where
  refused := by
    rintro start stop count rfl above executor
    exact service.call_of_refused executor (Operation.draft_of_limitTooHigh start stop above)
  unsigned := by
    intro within missing executor
    have incomplete := (Signer.isComplete_ofParts_eq_false_iff baseUrl key secret).mpr missing
    rw [← made] at incomplete
    exact service.call_of_incomplete executor (Operation.draft_of_isWithinLimit within) incomplete
  signed := by
    intro within hasKey hasSecret
    have complete : service.signer.isComplete = true := by
      rw [made, ← Bool.not_eq_false, Signer.isComplete_ofParts_eq_false_iff]
      rintro (noKey | noSecret)
      · exact hasKey noKey
      · exact hasSecret noSecret
    have drafted := Operation.draft_of_isWithinLimit within
    obtain ⟨keyText, secretText, isKey, isSecret⟩ := Signer.credentials_of_isComplete complete
    refine ⟨service.composed keyText secretText
      ⟨operation.permission, operation.endpoint, .object operation.bodyFields⟩,
      Signing.nonce?_compose .., ?_⟩
    intro executor
    refine ⟨_, service.call_of_complete executor drafted isKey isSecret, ?_, ?_⟩
    · intro error failed
      rw [failed]
      rfl
    · intro payload answered
      rw [answered]
      rfl

/-- The requests that a run has sent, in their order. -/
def sentRequests (outcomes : List (Outcome × Nat)) : List Request :=
  outcomes.flatMap fun outcome => outcome.1.sent

/-- The requests of a run carry nonces that increase and are above the last nonce before
the run. A call that sends nothing leaves the source; one that sends takes a nonce above
the last, and the nonces of the rest are above this one. -/
theorem nonces_increase (calls : List (Operation × Executor)) (service : Service)
    (room : service.source.HasRoom (2 ^ 64) calls.length) :
    ∃ nonces : List Nat,
      (sentRequests (service.run calls).1).map Request.nonce? = nonces.map some ∧
      nonces.Pairwise (· < ·) ∧ ∀ nonce ∈ nonces, service.source.last.toNat < nonce := by
  induction calls generalizing service with
  | nil => exact ⟨[], rfl, .nil, by simp⟩
  | cons call rest inductionHypothesis =>
    have fewer : service.source.HasRoom (2 ^ 64) rest.length := room.fewer (Nat.le_succ _)
    rcases service.call_cases call.1 with
      ⟨error, refused⟩ | ⟨draft, drafted, incomplete⟩ |
      ⟨draft, key, secret, drafted, hasKey, hasSecret⟩
    · simpa [run, service.call_of_refused call.2 refused, sentRequests] using
        inductionHypothesis service fewer
    · simpa [run, service.call_of_incomplete call.2 drafted incomplete, sentRequests] using
        inductionHypothesis { service with built := service.built + 1 } fewer
    · -- The source keeps the nonce taken here as its last one, so that the nonces of the rest,
      -- which are above it by induction, are above the last one before it, too.
      have called := service.call_of_complete call.2 drafted hasKey hasSecret
      obtain ⟨nonces, carried, increase, above⟩ := inductionHypothesis
        { service with source := service.source.issue.2, built := service.built + 1 } room.issue
      have first : service.source.last.toNat < service.source.issue.1.toNat :=
        NonceSource.last_lt_issue room
      refine ⟨service.source.issue.1.toNat :: nonces, ?_, List.pairwise_cons.mpr ⟨above, increase⟩,
        List.forall_mem_cons.mpr ⟨first, ?_⟩⟩
      · have head : (service.composed key secret draft).nonce? =
            some service.source.issue.1.toNat := Signing.nonce?_compose ..
        simp only [sentRequests] at carried ⊢
        simp [run, called, head, carried]
      · intro nonce member
        exact Nat.lt_trans first (above nonce member)

/-- The result of a call to which the executor gives one answer, whatever it is sent, is
settled by the operation and the signer. -/
theorem result_of_same_signer (service other : Service) (same : service.signer = other.signer)
    (operation : Operation) {executor : Executor} {answer : Except WalletError Json.Value}
    (answers : ∀ request, executor request = answer) :
    (service.call operation executor).1.result = (other.call operation executor).1.result := by
  rcases service.call_cases operation with
    ⟨error, refused⟩ | ⟨draft, drafted, incomplete⟩ |
    ⟨draft, key, secret, drafted, hasKey, hasSecret⟩
  · rw [service.call_of_refused executor refused, other.call_of_refused executor refused]
  · rw [service.call_of_incomplete executor drafted incomplete,
      other.call_of_incomplete executor drafted (same ▸ incomplete)]
  · rw [service.call_of_complete executor drafted hasKey hasSecret,
      other.call_of_complete executor drafted (same ▸ hasKey) (same ▸ hasSecret)]
    simp only [answers]

/-- Every call of every run is accounted for on the service that it is made on, and its
outcome stands at its place. The nonces of the requests that are sent increase, as far as
words go. A call to which the executor gives a settled answer comes to what it would come
to if it were made alone, on a new service with any source of nonces. -/
theorem calls_accounted (baseUrl : String) (key secret : Option String) (source : NonceSource)
    (before later : List (Operation × Executor)) (operation : Operation) (executor : Executor) :
    let service := Service.start (.ofParts baseUrl key secret) source
    let calls := before ++ (operation, executor) :: later
    let reached := (service.run before).2
    let outcome := (reached.call operation executor).1
    let called := (reached.call operation executor).2
    (service.run calls).1[before.length]? = some (outcome, called.built) ∧
      Accounted key secret reached operation ∧
      (∀ limit, (WalletError.limitTooHigh limit).message =
        s!"validation error: max request limit: 1000, got: {limit}") ∧
      WalletError.unsigned.kind = .credentials ∧
      (source.HasRoom (2 ^ 64) calls.length →
        ∃ nonces : List Nat,
          (sentRequests (service.run calls).1).map Request.nonce? = nonces.map some ∧
          nonces.Pairwise (· < ·) ∧ ∀ nonce ∈ nonces, source.last.toNat < nonce) ∧
      ∀ answer, (∀ request, executor request = answer) → ∀ other,
        outcome.result =
          ((Service.start (.ofParts baseUrl key secret) other).call operation
            executor).1.result := by
  intro service calls reached outcome called
  have signer : reached.signer = service.signer := service.run_signer before
  refine ⟨service.run_at before later (operation, executor),
    accounted baseUrl key secret signer operation, ?_, rfl, nonces_increase calls service, ?_⟩
  · intro limit
    rfl
  · intro answer answers other
    exact result_of_same_signer reached (Service.start (.ofParts baseUrl key secret) other) signer
      operation answers

/-- A refused call comes first, then the executor fails once and answers once, and the
clock goes back in between. The failed call has used up a nonce. -/
theorem failed_exchange_accounted :
    let source : NonceSource := ⟨.ofReadings [⟨0, 8000⟩, ⟨0, 3000⟩], 5⟩
    let service := Service.start (.ofParts "http://localhost" (some "key") (some "secret")) source
    let refused : Operation × Executor := (.movements none none (some 1001), fun _ => .ok .null)
    let failing : Executor := fun _ => .error .transport
    let later : List (Operation × Executor) := [(.wallets, fun _ => .ok (.array []))]
    (∀ executor, service.call refused.1 executor = (⟨.error (.limitTooHigh 1001), []⟩, service)) ∧
      (∃ request, request.nonce? = some 8 ∧
        (((service.run [refused]).2).call .wallets failing).1 =
          ⟨.error .transport, [request]⟩) ∧
      ∃ nonces : List Nat,
        (sentRequests (service.run ([refused] ++ (.wallets, failing) :: later)).1).map
          Request.nonce? = nonces.map some ∧
        nonces.Pairwise (· < ·) ∧ ∀ nonce ∈ nonces, 5 < nonce := by
  intro source service refused failing later
  have filled : ¬ Signer.IsMissing (some "key") ∧ ¬ Signer.IsMissing (some "secret") := by decide
  have first := (calls_accounted "http://localhost" (some "key") (some "secret") source []
    ((.wallets, failing) :: later) refused.1 refused.2).2.1
  obtain ⟨_, account, _, _, increase, _⟩ := calls_accounted "http://localhost" (some "key")
    (some "secret") source [refused] later .wallets failing
  obtain ⟨request, carried, sent⟩ := account.signed trivial filled.1 filled.2
  obtain ⟨result, called, fails, _⟩ := sent failing
  have nonce : (service.run [refused]).2.source.issue.1.toNat = 8 := by decide
  rw [nonce] at carried
  refine ⟨first.refused none none 1001 rfl (by decide), ⟨request, carried, ?_⟩,
    increase ⟨by decide, by decide⟩⟩
  rw [called, fails .transport rfl]

end Service

end ExchangeWallet
