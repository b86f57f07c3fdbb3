import ExchangeWallet.Proofs.Numerals
import ExchangeWallet.Proofs.Service.Call
import ExchangeWallet.Proofs.Signing.NonceLaw
/-!
# Runs of orders

Several signers may share one source of nonces. An order asks one of them to sign a
draft, or comes to nothing because the draft was refused before. A run takes orders one
after the other, those that are signed and those that are not in any mixture.

Only an order that is signed reads the clock and makes a nonce. So the nonces of a run
are those that the source gives to the orders that are signed, in their order, as if
the others were not there.
-/
namespace ExchangeWallet

open Signing (NonceSource Request Signer)

/-- What is to be signed, unless it was refused, and who is to sign it. -/
structure Order where
  signer : Signer
  draft : Except WalletError Draft

namespace Order

/-- Whether an order comes to a signed request. -/
def isSigned (order : Order) : Bool :=
  order.draft.isOk && order.signer.isComplete

/-- The request that an order comes to, and what is left of the nonces' source. -/
def request (order : Order) (source : NonceSource) : Except WalletError Request × NonceSource :=
  match order.draft with
  | .ok draft => order.signer.request draft.permission draft.endpoint draft.body source
  | .error error => (.error error, source)

/-- Takes orders one after the other. -/
def run (source : NonceSource) : List Order → List (Except WalletError Request) × NonceSource
  | [] => ([], source)
  | order :: rest =>
    let (result, left) := order.request source
    let (results, final) := run left rest
    (result :: results, final)

/-- How many orders come to a signed request. -/
def signedCount (orders : List Order) : Nat :=
  orders.countP isSigned

/-- The nonce of a request, read from its header. -/
def nonce? (result : Except WalletError Request) : Option Nat := do
  let request ← result.toOption
  let text ← request.header? "bfx-nonce"
  Numeral.natural? text.toList

/-- The nonces of the requests among the results of a run. -/
def nonces (results : List (Except WalletError Request)) : List Nat :=
  results.filterMap nonce?

/-- A signer without credentials refuses, and leaves the clock and the last nonce. -/
theorem request_of_incomplete {order : Order} {draft : Draft} (drafted : order.draft = .ok draft)
    (incomplete : order.signer.isComplete = false) (source : NonceSource) :
    order.request source = (.error .unsigned, source) := by
  rw [request, drafted]
  exact Signer.request_of_incomplete _ _ _ _ incomplete

/-- An order that is not signed fails, and leaves the clock and the last nonce. -/
theorem request_of_not_isSigned {order : Order} (unsigned : order.isSigned = false)
    (source : NonceSource) : ∃ error, order.request source = (.error error, source) := by
  cases drafted : order.draft with
  | error error => exact ⟨error, by rw [request, drafted]⟩
  | ok draft =>
    have incomplete : order.signer.isComplete = false := by
      simpa [isSigned, drafted, Except.isOk, Except.toBool] using unsigned
    exact ⟨.unsigned, request_of_incomplete drafted incomplete source⟩

/-- An order that is signed takes the next nonce of the source, and carries it. -/
theorem request_of_isSigned {order : Order} (signed : order.isSigned = true)
    (source : NonceSource) :
    ∃ request, order.request source = (.ok request, source.issue.2) ∧
      nonce? (.ok request) = some source.issue.1.toNat := by
  obtain ⟨ok, complete⟩ := Bool.and_eq_true_iff.mp signed
  obtain ⟨key, secret, hasKey, hasSecret⟩ := Signer.credentials_of_isComplete complete
  cases drafted : order.draft with
  | error error => simp [drafted, Except.isOk, Except.toBool] at ok
  | ok draft =>
    refine ⟨Signer.compose order.signer.baseUrl key secret draft.permission draft.endpoint
      draft.body source.issue.1, ?_, ?_⟩
    · rw [request, drafted]
      exact Signer.request_of_complete _ _ _ _ hasKey hasSecret
    · simp [nonce?, Except.toOption, Signing.compose_nonce]

/-- The requests that a run comes to are those of the orders that are signed. -/
theorem run_isOk (orders : List Order) (source : NonceSource) :
    (run source orders).1.map Except.isOk = orders.map isSigned := by
  induction orders generalizing source with
  | nil => rfl
  | cons order rest inductionHypothesis =>
    cases signed : order.isSigned with
    | false =>
      obtain ⟨error, requested⟩ := request_of_not_isSigned signed source
      simp [run, requested, inductionHypothesis, signed, Except.isOk, Except.toBool]
    | true =>
      obtain ⟨request, requested, _⟩ := request_of_isSigned signed source
      simp [run, requested, inductionHypothesis, signed, Except.isOk, Except.toBool]

/-- A run leaves the source as it is behind one nonce for each order that is signed. -/
theorem run_source (orders : List Order) (source : NonceSource) :
    (run source orders).2 = source.after (signedCount orders) := by
  induction orders generalizing source with
  | nil => rfl
  | cons order rest inductionHypothesis =>
    cases signed : order.isSigned with
    | false =>
      obtain ⟨error, requested⟩ := request_of_not_isSigned signed source
      simp [run, requested, inductionHypothesis, signedCount, signed]
    | true =>
      obtain ⟨request, requested, _⟩ := request_of_isSigned signed source
      simp [run, requested, inductionHypothesis, signedCount, signed, NonceSource.after]

/-- With room for them, the nonces of a run are the lawful ones. An order that is not
signed changes nothing; one that is takes the first nonce of the law and leaves a
source whose law is the rest of it. -/
theorem nonces_run (orders : List Order) (source : NonceSource)
    (room : source.HasRoom (2 ^ 64) (signedCount orders)) :
    nonces (run source orders).1 = (List.range (signedCount orders)).map source.lawfulNonce := by
  induction orders generalizing source with
  | nil => rfl
  | cons order rest inductionHypothesis =>
    cases signed : order.isSigned with
    | false =>
      obtain ⟨error, requested⟩ := request_of_not_isSigned signed source
      have same : signedCount (order :: rest) = signedCount rest := by
        simp [signedCount, signed]
      rw [same] at room ⊢
      have carriesNone : nonce? (.error error) = none := rfl
      rw [← inductionHypothesis source room]
      simp [run, requested, nonces, carriesNone]
    | true =>
      obtain ⟨request, requested, carried⟩ := request_of_isSigned signed source
      have more : signedCount (order :: rest) = signedCount rest + 1 := by
        simp [signedCount, signed]
      rw [more] at room ⊢
      have others : nonces (run source.issue.2 rest).1 =
          (List.range (signedCount rest)).map fun later => source.lawfulNonce (later + 1) := by
        rw [inductionHypothesis _ room.issue]
        exact List.map_congr_left fun later _ => NonceSource.lawfulNonce_issue room later
      have first : nonces (run source (order :: rest)).1 =
          source.issue.1.toNat :: nonces (run source.issue.2 rest).1 := by
        simp [run, requested, nonces, carried]
      rw [first, others, List.range_succ_eq_map, List.map_cons, List.map_map,
        NonceSource.lawfulNonce_zero room]
      rfl

/-- What a run does to the nonces. Each is the highest of the floors that the last nonce and
the readings so far have set; so nonces increase, are above the last one, and stay within
53 bits where the last nonce and the clock leave room for them. An order without
credentials gives an error and the same source as before. -/
theorem nonces_of_run (orders : List Order) (source : NonceSource)
    (room : source.HasRoom (2 ^ 64) (signedCount orders)) :
    let results := (run source orders).1
    results.map Except.isOk = orders.map isSigned ∧
      nonces results = (List.range (signedCount orders)).map (fun count =>
        max (source.last.toNat + (count + 1)) ((Finset.range (count + 1)).sup fun earlier =>
          source.clock.nowAt earlier + (count - earlier))) ∧
      (nonces results).Pairwise (· < ·) ∧
      (∀ nonce ∈ nonces results, source.last.toNat < nonce) ∧
      (source.HasRoom (2 ^ 53) (signedCount orders) → ∀ nonce ∈ nonces results, nonce < 2 ^ 53) ∧
      (run source orders).2 = source.after (signedCount orders) ∧
      ∀ order ∈ orders, ∀ draft, order.draft = .ok draft → order.signer.isComplete = false →
        ∀ source, order.request source = (.error .unsigned, source) := by
  intro results
  have lawful := nonces_run orders source room
  refine ⟨run_isOk orders source, lawful, ?_, ?_, ?_, run_source orders source, ?_⟩
  · rw [lawful, List.pairwise_map]
    exact List.pairwise_lt_range.imp fun less => source.lawfulNonce_strictMono less
  · intro nonce member
    rw [lawful] at member
    obtain ⟨count, _, rfl⟩ := List.mem_map.mp member
    exact source.last_lt_lawfulNonce count
  · intro narrow nonce member
    rw [lawful] at member
    obtain ⟨count, within, rfl⟩ := List.mem_map.mp member
    exact NonceSource.lawfulNonce_lt narrow (List.mem_range.mp within)
  · intro order _ draft drafted incomplete source
    exact request_of_incomplete drafted incomplete source

/-- Three orders are signed by a clock that goes back, once to before the epoch; an order
without credentials and a refused one come in between. -/
theorem nonces_of_faltering_clock :
    nonces (run ⟨.ofReadings [⟨0, 7900⟩, ⟨-1, 999999999⟩, ⟨0, 3000⟩], 5⟩
      [⟨⟨"https://api.bitfinex.com/v2/", some "key", some "secret"⟩, Operation.wallets.draft⟩,
        ⟨⟨"https://api.bitfinex.com/v2/", some "key", none⟩, Operation.wallets.draft⟩,
        ⟨⟨"https://api.bitfinex.com/v2/", some "key", some "secret"⟩, Operation.wallets.draft⟩,
        ⟨⟨"https://api.bitfinex.com/v2/", some "key", some "secret"⟩,
          (Operation.movements none none (some 1001)).draft⟩,
        ⟨⟨"http://localhost/", some "other key", some "other secret"⟩,
          Operation.wallets.draft⟩]).1 = [7, 8, 9] := by
  refine (nonces_of_run _ _ ⟨by decide, by decide⟩).2.1.trans ?_
  decide

end Order

namespace Service

/-- A call is an order of its signer for the draft of its operation. -/
theorem call_order (service : Service) (operation : Operation) (executor : Executor) :
    let requested := Order.request ⟨service.signer, operation.draft⟩ service.source
    (service.call operation executor).1.sent = requested.1.toOption.toList ∧
      (service.call operation executor).2.source = requested.2 ∧
      (service.call operation executor).2.signer = service.signer := by
  refine ⟨?_, ?_, service.call_signer executor operation⟩
  all_goals
    cases drafted : operation.draft with
    | error error =>
      rw [service.call_of_refused executor drafted]
      rfl
    | ok draft =>
      rw [service.call_of_draft executor drafted]
      rfl

/-- The calls of a service are a run of orders. What the executors answer has no part
in what is sent. -/
theorem run_orders (service : Service) (calls : List (Operation × Executor)) :
    let orders := calls.map fun call => ⟨service.signer, call.1.draft⟩
    (service.run calls).1.map (fun outcome => outcome.1.sent) =
        (Order.run service.source orders).1.map (fun result => result.toOption.toList) ∧
      (service.run calls).2.source = (Order.run service.source orders).2 := by
  induction calls generalizing service with
  | nil => exact ⟨rfl, rfl⟩
  | cons call rest inductionHypothesis =>
    obtain ⟨sent, source, signer⟩ := service.call_order call.1 call.2
    obtain ⟨sents, final⟩ := inductionHypothesis (service.call call.1 call.2).2
    rw [signer, source] at sents final
    exact ⟨congrArg₂ List.cons sent sents, final⟩

end Service

end ExchangeWallet
