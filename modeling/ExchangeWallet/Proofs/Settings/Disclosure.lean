import ExchangeWallet.Proofs.Settings.Configured
import ExchangeWallet.Proofs.Text.Quoted
/-!
# What is written for inspection tells

Two values hold credentials, and both can be written for inspection. A signer tells its base
URL and which credentials it has. A configuration tells everything: two of them that differ in
anything, and be it in one character of a secret, are written differently.
-/
namespace ExchangeWallet

open Settings (Configuration Environment)
open Signing (Signer)

/-- Two credentials that agree, but for what they are if both are there and not empty. -/
inductive AgreesInPresence : Option String → Option String → Prop
  | same (credential : Option String) : AgreesInPresence credential credential
  | given {first second : String} (filled : first ≠ "") (otherFilled : second ≠ "") :
      AgreesInPresence (some first) (some second)

/-- Two configurations that agree, but for what their credentials are. -/
structure Settings.Configuration.AgreesBesideCredentials (first second : Configuration) : Prop where
  apiUrl : first.apiUrl = second.apiUrl
  key : AgreesInPresence first.key second.key
  secret : AgreesInPresence first.secret second.secret
  bundle : first.bundle = second.bundle

/-- A credential of a signer shows whether it is there. -/
theorem inspectCredential_eq_iff {first second : Option String} :
    Signer.inspectCredential first = Signer.inspectCredential second ↔
      first.isSome = second.isSome := by
  rw [Signer.inspectCredential, Signer.inspectCredential, Text.inspectOption_inj]
  cases first <;> cases second <;> simp

/-- A signer shows its base URL and which credentials it has. -/
theorem Signing.Signer.inspect_eq_iff (first second : Signer) :
    first.inspect = second.inspect ↔
      first.baseUrl = second.baseUrl ∧ first.key.isSome = second.key.isSome ∧
        first.secret.isSome = second.secret.isSome := by
  rw [← inspectCredential_eq_iff, ← inspectCredential_eq_iff]
  constructor
  · intro same
    have parts : "Signer \x7b base_url: " ++ Text.inspect first.baseUrl ++ ", api_key: " ++
          Signer.inspectCredential first.key ++ ", api_secret: " ++
          Signer.inspectCredential first.secret ++ " \x7d" =
        "Signer \x7b base_url: " ++ Text.inspect second.baseUrl ++ ", api_key: " ++
          Signer.inspectCredential second.key ++ ", api_secret: " ++
          Signer.inspectCredential second.secret ++ " \x7d" := same
    simp only [String.append_assoc, String.append_right_inj] at parts
    obtain ⟨urls, parts⟩ := Text.inspect_unique parts
    obtain ⟨keys, parts⟩ := Text.inspectOption_unique ((String.append_right_inj _).mp parts)
    obtain ⟨secrets, _⟩ := Text.inspectOption_unique ((String.append_right_inj _).mp parts)
    exact ⟨urls, congrArg Text.inspectOption keys, congrArg Text.inspectOption secrets⟩
  · rintro ⟨urls, keys, secrets⟩
    unfold Signer.inspect
    rw [urls, keys, secrets]

/-- A configuration shows all of its parts. -/
theorem Settings.Configuration.inspect_injective {first second : Configuration}
    (same : first.inspect = second.inspect) : first = second := by
  have parts : "AppConfig \x7b bitfinex: BitfinexConfig \x7b api_url: " ++
        Text.inspect first.apiUrl ++ ", api_key: " ++ Text.inspectOption first.key ++ ", " ++
        ("api_secret: " ++ Text.inspectOption first.secret ++ ", ca_bundle: " ++
          Text.inspectOption first.bundle ++ " \x7d \x7d") =
      "AppConfig \x7b bitfinex: BitfinexConfig \x7b api_url: " ++
        Text.inspect second.apiUrl ++ ", api_key: " ++ Text.inspectOption second.key ++ ", " ++
        ("api_secret: " ++ Text.inspectOption second.secret ++ ", ca_bundle: " ++
          Text.inspectOption second.bundle ++ " \x7d \x7d") := same
  simp only [String.append_assoc, String.append_right_inj] at parts
  obtain ⟨urls, parts⟩ := Text.inspect_unique parts
  obtain ⟨keys, parts⟩ := Text.inspectOption_unique ((String.append_right_inj _).mp parts)
  simp only [String.append_right_inj] at parts
  obtain ⟨secrets, parts⟩ := Text.inspectOption_unique parts
  obtain ⟨bundles, _⟩ := Text.inspectOption_unique ((String.append_right_inj _).mp parts)
  cases first
  cases second
  congr

/-- Written for inspection, a signer tells a credential only in that it is there, and beside
that its base URL. A configuration tells all of its parts, and so two of them look the same
only if they have the same credentials. -/
theorem inspection_tells_parts (signer otherSigner : Signer)
    (configuration otherConfiguration : Configuration) :
    (signer.inspect = otherSigner.inspect ↔
      signer.baseUrl = otherSigner.baseUrl ∧ signer.key.isSome = otherSigner.key.isSome ∧
        signer.secret.isSome = otherSigner.secret.isSome) ∧
    (configuration.inspect = otherConfiguration.inspect ↔ configuration = otherConfiguration) := by
  constructor
  · exact Signer.inspect_eq_iff signer otherSigner
  · exact ⟨Configuration.inspect_injective, congrArg Configuration.inspect⟩

/-- Not every configuration hides its credentials. Two environments with two secrets settle
configurations that are written differently. -/
theorem not_every_credential_hidden :
    ¬ ∀ (environment other : Environment) (first second : Configuration),
      configurationOf environment = .ok first → configurationOf other = .ok second →
        first.AgreesBesideCredentials second → first.inspect = second.inspect := by
  intro hidden
  let environment (secret : String) :=
    (Environment.empty.set "BFX_API_KEY" "key".toUTF8).set "BFX_API_SECRET" secret.toUTF8
  let configuration (secret : String) : Configuration :=
    ⟨Settings.defaultUrl, some "key", some secret, none⟩
  have configured (secret : String) (filled : secret ≠ "") :
      configurationOf (environment secret) = .ok (configuration secret) :=
    configurationOf_eq_ok_iff_isSettledBy.mpr
      { url := ⟨none, .absent (.unset rfl), Settings.isSlashed_defaultUrl⟩
        key := .text rfl (by decide)
        secret := .text rfl filled
        paired := rfl
        bundle := .absent (.unset rfl) }
  have agree : (configuration "s").AgreesBesideCredentials (configuration "t") :=
    ⟨rfl, .same _, .given (by decide) (by decide), rfl⟩
  have same := hidden _ _ _ _ (configured "s" (by decide)) (configured "t" (by decide)) agree
  have secrets := congrArg Configuration.secret (Configuration.inspect_injective same)
  exact absurd secrets (by decide)

end ExchangeWallet
