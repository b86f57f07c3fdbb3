import ExchangeWallet.Proofs.Json.Depth
import ExchangeWallet.Proofs.Signing.Completeness
/-!
# Signed bodies read back

The body that a complete signer signs is the text of the value that it was given. As long as that
value can be told from its text, the request denotes it again, and requests for different values
have different bodies.
-/
namespace ExchangeWallet.Signing.Signer

open Json (Value)

variable {signer : Signer}

/-- A complete signer puts the text of a value into the request for it. -/
theorem exists_request_of_complete (complete : signer.isComplete = true) (permission : Permission)
    (endpoint : String) (body : Value) (source : NonceSource) :
    ∃ request rest, signer.request permission endpoint body source = (.ok request, rest) ∧
      request.body = body.compact := by
  obtain ⟨key, secret, hasKey, hasSecret⟩ := credentials_of_isComplete complete
  exact ⟨_, _, request_of_complete permission endpoint body source hasKey hasSecret, rfl⟩

/-- The request for a value has no other body than its text. -/
theorem body_of_request {permission : Permission} {endpoint : String} {body : Value}
    {source rest : NonceSource} {request : Request} (complete : signer.isComplete = true)
    (made : signer.request permission endpoint body source = (.ok request, rest)) :
    request.body = body.compact := by
  obtain ⟨other, otherRest, otherMade, text⟩ :=
    exists_request_of_complete complete permission endpoint body source
  obtain ⟨same, _⟩ := Prod.mk.inj (made.symm.trans otherMade)
  rw [Except.ok.inj same, text]

/-- A request denotes the value whose text is its body, if that can be told from the text. -/
theorem value_of_body {request : Request} {body : Value} (recoverable : body.IsRecoverable)
    (text : request.body = body.compact) : request.value = .ok body := by
  rw [Request.value, text, recoverable.read_compact]
  rfl

end Signer

open Json (Value)

/-- A complete signer makes a request for every value that can be told from its text, whatever the
permission and the endpoint, and the body of the request denotes the value; without a value it
denotes the empty object. Requests with the same body are for the same value. -/
theorem signed_body_reads_back (signer : Signer) (complete : signer.isComplete = true) :
    (∀ (permission : Permission) (endpoint : String) (body : Value) (source : NonceSource),
      body.IsRecoverable →
        ∃ request rest, signer.request permission endpoint body source = (.ok request, rest) ∧
          request.value = .ok body) ∧
    (∀ (permission : Permission) (endpoint : String) (source : NonceSource),
      ∃ request rest, signer.requestWithoutBody permission endpoint source = (.ok request, rest) ∧
        request.value = .ok (.object [])) ∧
    (∀ (permission otherPermission : Permission) (endpoint otherEndpoint : String)
      (body otherBody : Value) (source otherSource rest otherRest : NonceSource)
      (request otherRequest : Request), body.IsRecoverable → otherBody.IsRecoverable →
        signer.request permission endpoint body source = (.ok request, rest) →
          signer.request otherPermission otherEndpoint otherBody otherSource =
              (.ok otherRequest, otherRest) →
            request.body = otherRequest.body → body = otherBody) := by
  have reads (permission : Permission) (endpoint : String) (body : Value) (source : NonceSource)
      (recoverable : body.IsRecoverable) :
      ∃ request rest, signer.request permission endpoint body source = (.ok request, rest) ∧
        request.value = .ok body := by
    obtain ⟨request, rest, made, text⟩ :=
      Signer.exists_request_of_complete complete permission endpoint body source
    exact ⟨request, rest, made, Signer.value_of_body recoverable text⟩
  refine ⟨reads, ?_, ?_⟩
  · intro permission endpoint source
    exact reads permission endpoint Value.emptyObject source Json.emptyObject_isRecoverable
  · intro permission otherPermission endpoint otherEndpoint body otherBody source otherSource rest
      otherRest request otherRequest recoverable otherRecoverable made otherMade same
    have value := Signer.value_of_body recoverable (Signer.body_of_request complete made)
    have otherValue := Signer.value_of_body otherRecoverable
      (same.trans (Signer.body_of_request complete otherMade))
    exact Except.ok.inj (value.symm.trans otherValue)

/-- A value inside arrays of one item each. -/
def nested (value : Value) : Nat → Value
  | 0 => value
  | levels + 1 => .array [nested value levels]

/-- Arrays of one item each nest a value as deep as there are arrays, and bring in nothing else. -/
theorem nested_parts {value : Value} (whole : value.IsWhole) (ordered : value.IsOrdered)
    (levels : Nat) :
    (nested value levels).depth = value.depth + levels ∧ (nested value levels).IsWhole ∧
      (nested value levels).IsOrdered := by
  induction levels with
  | zero => exact ⟨rfl, whole, ordered⟩
  | succ levels inductionHypothesis =>
    obtain ⟨depth, insideWhole, insideOrdered⟩ := inductionHypothesis
    refine ⟨?_, ?_, ?_⟩
    · rw [nested, Value.depth, Json.itemsDepth, Json.itemsDepth, depth, Nat.max_zero, Nat.add_assoc]
    · rw [nested, Json.isWhole_array_iff, List.forall_mem_singleton]
      exact insideWhole
    · rw [nested, Json.isOrdered_array_iff, List.forall_mem_singleton]
      exact insideOrdered

/-- The least and the largest whole number. -/
def extremes : Value :=
  .array [.number (.whole (-2 ^ 63) (by decide)), .number (.whole (2 ^ 64 - 1) (by decide))]

/-- The least and the largest whole number are read back from a signed body where they stand as
deep as a text may nest. -/
theorem deepest_body_reads_back :
    let signer := Signer.ofParts "https://api.bitfinex.com/v2/" (some "key") (some "secret")
    let source : NonceSource := ⟨.ofReadings [⟨0, 8000⟩], 5⟩
    ∃ request rest,
      signer.request .write "withdraw" (nested extremes 126) source = (.ok request, rest) ∧
        request.value = .ok (nested extremes 126) := by
  intro signer source
  have extremesWhole : extremes.IsWhole := by simp [extremes]
  have extremesOrdered : extremes.IsOrdered := by simp [extremes]
  obtain ⟨depth, whole, ordered⟩ := nested_parts extremesWhole extremesOrdered 126
  have recoverable : (nested extremes 126).IsRecoverable := ⟨depth.le, whole, ordered⟩
  exact (signed_body_reads_back signer (by decide)).1 .write "withdraw" _ source recoverable

end ExchangeWallet.Signing
