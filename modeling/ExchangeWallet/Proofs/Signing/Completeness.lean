import ExchangeWallet.Signing.Signer
/-!
# Complete signers

A signer is complete when it has a key and a secret, and empty ones do not count. What a
signer does with a question is settled by this alone. A complete signer takes one nonce
and composes the request with it; any other refuses, whichever credential it lacks, and
leaves the source of the nonces as it was.
-/
namespace ExchangeWallet.Signing.Signer

open Json (Value)

/-- A credential that a signer has no use for. -/
def IsMissing (credential : Option String) : Prop :=
  credential = none ∨ credential = some ""

instance (credential : Option String) : Decidable (IsMissing credential) :=
  inferInstanceAs (Decidable (_ ∨ _))

/-- Nothing is kept of a credential exactly if it is missing. -/
theorem nonempty_eq_none_iff (credential : Option String) :
    nonempty credential = none ↔ IsMissing credential := by
  cases credential with
  | none => simp [nonempty, IsMissing]
  | some text => simp [nonempty, IsMissing]

/-- A credential that is not empty is kept as it is. -/
theorem nonempty_some {text : String} (filled : text ≠ "") : nonempty (some text) = some text := by
  simp [nonempty, filled]

variable {signer : Signer}

/-- A signer is not complete exactly if it lacks a credential. -/
theorem isComplete_eq_false_iff :
    signer.isComplete = false ↔ signer.key = none ∨ signer.secret = none := by
  rw [isComplete, Bool.and_eq_false_iff, Option.isSome_eq_false_iff, Option.isSome_eq_false_iff,
    Option.isNone_iff_eq_none, Option.isNone_iff_eq_none]

/-- A signer is made incomplete by one missing credential. -/
theorem isComplete_ofParts_eq_false_iff (baseUrl : String) (key secret : Option String) :
    (ofParts baseUrl key secret).isComplete = false ↔ IsMissing key ∨ IsMissing secret := by
  rw [isComplete_eq_false_iff, ← nonempty_eq_none_iff, ← nonempty_eq_none_iff]
  rfl

/-- A signer that is complete has both credentials. -/
theorem credentials_of_isComplete (complete : signer.isComplete = true) :
    ∃ key secret, signer.key = some key ∧ signer.secret = some secret := by
  obtain ⟨hasKey, hasSecret⟩ := Bool.and_eq_true_iff.mp complete
  obtain ⟨key, isKey⟩ := Option.isSome_iff_exists.mp hasKey
  obtain ⟨secret, isSecret⟩ := Option.isSome_iff_exists.mp hasSecret
  exact ⟨key, secret, isKey, isSecret⟩

section Request

variable (permission : Permission) (endpoint : String) (body : Value) (source : NonceSource)

/-- An incomplete signer refuses, and leaves the clock and the last nonce. -/
theorem request_of_incomplete (incomplete : signer.isComplete = false) :
    signer.request permission endpoint body source = (.error .unsigned, source) := by
  rcases isComplete_eq_false_iff.mp incomplete with noKey | noSecret
  · simp [request, noKey]
  · simp [request, noSecret]

/-- A complete signer composes the request with the next nonce. -/
theorem request_of_complete {key secret : String} (hasKey : signer.key = some key)
    (hasSecret : signer.secret = some secret) :
    signer.request permission endpoint body source =
      (.ok (compose signer.baseUrl key secret permission endpoint body source.issue.1),
        source.issue.2) := by
  simp [request, hasKey, hasSecret]

/-- A signer answers with a request exactly if it is complete. -/
theorem request_ok_iff (signer : Signer) :
    (∃ request, (signer.request permission endpoint body source).1 = .ok request) ↔
      signer.isComplete = true := by
  cases complete : signer.isComplete with
  | false => simp [request_of_incomplete _ _ _ _ complete]
  | true =>
    obtain ⟨key, secret, hasKey, hasSecret⟩ := credentials_of_isComplete complete
    simp [request_of_complete _ _ _ _ hasKey hasSecret]

end Request

end ExchangeWallet.Signing.Signer
