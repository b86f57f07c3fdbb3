import ExchangeWallet.Proofs.Settings.Reading
import ExchangeWallet.Proofs.Settings.Resolution
/-!
# What the environment settles

A configuration is settled by an environment part by part: each part is what its own variable
reads as. Only the base URL is touched, by the slash that is put behind it if it has none, and
only the credentials depend on each other, since they are there both or not at all. An
environment settles one configuration, or it has one credential without the other.
-/
namespace ExchangeWallet

open Settings (Configuration Credential Environment)

namespace Settings

/-- Every part of a configuration is what the environment settles. -/
structure Configuration.IsSettledBy (configuration : Configuration) (environment : Environment) :
    Prop where
  url : ∃ found, environment.Reads urlVariable found ∧
    IsSlashed (found.getD defaultUrl) configuration.apiUrl
  key : environment.Reads Credential.key.variableName configuration.key
  secret : environment.Reads Credential.secret.variableName configuration.secret
  paired : configuration.key.isSome = configuration.secret.isSome
  bundle : environment.Reads bundleVariable configuration.bundle

end Settings

section Configured

variable {environment : Environment} {configuration : Configuration}

/-- The configuration of an environment is the one that it settles. -/
theorem configurationOf_eq_ok_iff_isSettledBy :
    configurationOf environment = .ok configuration ↔ configuration.IsSettledBy environment := by
  rw [configurationOf_eq_ok_iff]
  constructor
  · rintro ⟨both, rfl⟩
    exact
      { url := ⟨_, Environment.reads_iff.mpr rfl, Settings.isSlashed_iff.mpr rfl⟩
        key := Environment.reads_iff.mpr rfl
        secret := Environment.reads_iff.mpr rfl
        paired := both
        bundle := Environment.reads_iff.mpr rfl }
  · rintro ⟨⟨found, reads, slashed⟩, key, secret, paired, bundle⟩
    rw [Environment.reads_iff] at reads key secret bundle
    rw [key, secret]
    refine ⟨paired, ?_⟩
    rw [Environment.configured, reads, bundle, key, secret, ← Settings.isSlashed_iff.mp slashed]

/-- An environment that settles no configuration has one credential without the other. -/
theorem exists_missing_of_error {error : WalletError}
    (refused : configurationOf environment = .error error) :
    ∃ credential : Credential, environment.IsAbsent credential.variableName ∧
      ¬ environment.IsAbsent credential.other.variableName ∧
      error = .credentialMissing credential := by
  have unlike : (environment.text? Credential.key.variableName).isSome ≠
      (environment.text? Credential.secret.variableName).isSome := by
    intro both
    rw [configurationOf_of_both environment both] at refused
    cases refused
  obtain ⟨credential, missing, given⟩ := exists_missing_of_not_both environment unlike
  refine ⟨credential, Environment.isAbsent_iff.mpr missing, ?_, ?_⟩
  · rw [Environment.isAbsent_iff]
    exact Option.isSome_iff_ne_none.mp given
  · rw [configurationOf_of_one environment missing given] at refused
    exact (Except.error.inj refused).symm

end Configured

end ExchangeWallet
