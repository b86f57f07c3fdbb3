import ExchangeWallet.Proofs.Settings.Clients
import ExchangeWallet.Surroundings
/-!
# Settings along a history

The surroundings of a process change, and in between it looks at its settings: it reads the
configuration, signs a question, makes a client. Looks leave the environment and the keychain,
and open no entry. So what a look finds depends on the changes before it and not on the looks,
and it is the same whatever history has led to this environment.

A look fails at the first of four places. One credential without the other settles no
configuration. A configuration makes no client if its bundle is unusable, or if the HTTP library
cannot be set up with what is in it. Only the first call of a client tells that there are no
credentials.
-/
namespace ExchangeWallet

open Settings (Configuration Credential)
open Signing (Request Signer)

/-- A step that looks at the settings. -/
inductive Step.IsLook : Step → Prop
  | configure : IsLook .configure
  | sign : IsLook .sign
  | connect : IsLook .connect

instance (step : Step) : Decidable step.IsLook :=
  match step with
  | .configure => .isTrue .configure
  | .sign => .isTrue .sign
  | .connect => .isTrue .connect
  | .setVariable .. | .unsetVariable .. | .changeEntry .. | .lookUp | .fillIn =>
    .isFalse fun look => nomatch look

namespace Surroundings

section History

variable (surroundings : Surroundings)

/-- The surroundings that a history leaves. -/
def after (history : List Step) : Surroundings :=
  history.foldl (fun reached step => (reached.step step).2) surroundings

/-- The step at a place of a run is made in the surroundings that the history before it
leaves. -/
theorem run_at (before later : List Step) (step : Step) :
    (surroundings.run (before ++ step :: later))[before.length]? =
      some ((surroundings.after before).step step) := by
  induction before generalizing surroundings with
  | nil => rfl
  | cons first rest inductionHypothesis =>
    exact inductionHypothesis (surroundings.step first).2

/-- Surroundings with the same variables and the same entries. -/
structure SameSettings (first second : Surroundings) : Prop where
  environment : first.environment = second.environment
  keychain : first.keychain = second.keychain

/-- A look leaves the variables and the entries, and opens none. -/
theorem step_of_isLook {step : Step} (look : step.IsLook) :
    SameSettings (surroundings.step step).2 surroundings ∧
      (surroundings.step step).1.opened = [] := by
  cases look with
  | configure => exact ⟨⟨rfl, rfl⟩, rfl⟩
  | sign => exact ⟨⟨rfl, rfl⟩, rfl⟩
  | connect => exact ⟨⟨rfl, rfl⟩, rfl⟩

/-- What a step makes of the variables and the entries depends on them alone. -/
theorem SameSettings.step {first second : Surroundings} (same : SameSettings first second)
    (step : Step) : SameSettings (first.step step).2 (second.step step).2 := by
  obtain ⟨environment, keychain⟩ := same
  cases step with
  | setVariable name value => exact ⟨congrArg (·.set name value) environment, keychain⟩
  | unsetVariable name => exact ⟨congrArg (·.unset name) environment, keychain⟩
  | changeEntry name entry => exact ⟨environment, congrArg (·.set name entry) keychain⟩
  | fillIn =>
    refine ⟨?_, keychain⟩
    simp only [Surroundings.step, environment, keychain]
  | lookUp | configure | sign | connect => exact ⟨environment, keychain⟩

/-- A history leaves the same variables and entries without its looks. -/
theorem SameSettings.after {first second : Surroundings} (same : SameSettings first second)
    (history : List Step) :
    SameSettings (first.after (history.filter fun step => ¬ step.IsLook))
      (second.after history) := by
  induction history generalizing first second with
  | nil => exact same
  | cons step rest inductionHypothesis =>
    by_cases look : step.IsLook
    · rw [List.filter_cons_of_neg (by simpa using look)]
      have left := (second.step_of_isLook look).1
      exact inductionHypothesis
        ⟨same.environment.trans left.environment.symm, same.keychain.trans left.keychain.symm⟩
    · rw [List.filter_cons_of_pos (by simpa using look)]
      exact inductionHypothesis (same.step step)

end History

section Looks

/-- One credential is there without the other. -/
inductive HasOne (surroundings : Surroundings) : WalletError → Prop
  | missing {credential : Credential}
      (missing : surroundings.environment.IsAbsent credential.variableName)
      (present : ¬ surroundings.environment.IsAbsent credential.other.variableName) :
      HasOne surroundings (.credentialMissing credential)

/-- What signing a question for the wallets comes to. -/
inductive Signs (surroundings : Surroundings) : Except WalletError (Signer × Request) → Prop
  | misconfigured {error : WalletError} (one : surroundings.HasOne error) :
      Signs surroundings (.error error)
  | unsigned {configuration : Configuration}
      (settled : configuration.IsSettledBy surroundings.environment)
      (noKey : configuration.key = none) (noSecret : configuration.secret = none) :
      Signs surroundings (.error .unsigned)
  | signed {configuration : Configuration} {request : Request} {key secret : String}
      (settled : configuration.IsSettledBy surroundings.environment)
      (hasKey : configuration.key = some key) (hasSecret : configuration.secret = some secret)
      (goes : request.url = configuration.apiUrl ++ "auth/r/wallets")
      (signed : request.IsSigned configuration.apiUrl key secret .read "wallets"
        Json.Value.emptyObject surroundings.source.issue.1.toNat) :
      Signs surroundings (.ok (Signer.ofConfiguration configuration, request))

/-- What making a client comes to. The places where it can fail stand in their order, and each
asks for those before it to be in order. -/
inductive Connects (surroundings : Surroundings) : Except WalletError Client → Prop
  | misconfigured {error : WalletError} (one : surroundings.HasOne error) :
      Connects surroundings (.error error)
  | untrusted {configuration : Configuration} {path : String} {fault : Trust.Fault}
      (settled : configuration.IsSettledBy surroundings.environment)
      (named : configuration.bundle = some path)
      (unusable : Trust.certificates surroundings.files path = .error fault) :
      Connects surroundings (.error (.trust fault))
  | unbuilt {configuration : Configuration} {certificates : Option (List (List UInt8))}
      (settled : configuration.IsSettledBy surroundings.environment)
      (had : Client.certificatesOf surroundings.files configuration = .ok certificates)
      (unbuilt : surroundings.builds certificates = false) :
      Connects surroundings (.error .transport)
  | unsigned {configuration : Configuration} {client : Client}
      (settled : configuration.IsSettledBy surroundings.environment)
      (made : Client.ofConfiguration surroundings.files surroundings.builds configuration =
        .ok client)
      (noKey : configuration.key = none) (noSecret : configuration.secret = none) :
      Connects surroundings (.error .unsigned)
  | connected {configuration : Configuration} {client : Client}
      (settled : configuration.IsSettledBy surroundings.environment)
      (made : Client.ofConfiguration surroundings.files surroundings.builds configuration =
        .ok client)
      (hasKey : configuration.key.isSome) (hasSecret : configuration.secret.isSome) :
      Connects surroundings (.ok client)

variable (surroundings : Surroundings)

/-- Reading the configuration fails only with one credential. -/
theorem hasOne_of_error {error : WalletError}
    (refused : configurationOf surroundings.environment = .error error) :
    surroundings.HasOne error := by
  obtain ⟨credential, missing, present, rfl⟩ := exists_missing_of_error refused
  exact .missing missing present

/-- A question for the wallets is signed by the credentials of the configuration, and goes to
its base URL. -/
theorem sign_signs : surroundings.Signs surroundings.sign.1 := by
  rw [Surroundings.sign]
  cases configured : configurationOf surroundings.environment with
  | error error => exact .misconfigured (surroundings.hasOne_of_error configured)
  | ok configuration =>
    have settled := configurationOf_eq_ok_iff_isSettledBy.mp configured
    have base := baseUrl_ofConfiguration settled
    simp only [Signer.requestWithoutBody]
    cases complete : (Signer.ofConfiguration configuration).isComplete with
    | false =>
      obtain ⟨noKey, noSecret⟩ := missing_of_incomplete settled complete
      rw [Signer.request_of_incomplete _ _ _ _ complete]
      exact .unsigned settled noKey noSecret
    | true =>
      obtain ⟨key, secret, isKey, isSecret⟩ := Signer.credentials_of_isComplete complete
      obtain ⟨keys, secrets, _⟩ := signer_credentials _ configured
      rw [Signer.request_of_complete _ _ _ _ isKey isSecret, base]
      exact .signed settled (keys.symm.trans isKey) (secrets.symm.trans isSecret) rfl
        (Signing.compose_isSigned ..)

/-- Making a client comes to the first failure, or to a client with credentials. -/
theorem connect_connects : surroundings.Connects surroundings.connect := by
  rw [Surroundings.connect]
  cases configured : configurationOf surroundings.environment with
  | error error => exact .misconfigured (surroundings.hasOne_of_error configured)
  | ok configuration =>
    have settled := configurationOf_eq_ok_iff_isSettledBy.mp configured
    simp only [bind, Except.bind]
    cases made : Client.ofConfiguration surroundings.files surroundings.builds configuration with
    | error error =>
      rcases unusable_or_unbuilt_of_error made with
        ⟨path, fault, named, unusable, rfl⟩ | ⟨certificates, had, unbuilt, rfl⟩
      · exact .untrusted settled named unusable
      · exact .unbuilt settled had unbuilt
    | ok client =>
      have signer := signer_of_ofConfiguration made
      cases complete : client.signer.isComplete with
      | true =>
        obtain ⟨hasKey, hasSecret⟩ := given_of_complete (signer ▸ complete)
        simp only [complete]
        exact .connected settled made hasKey hasSecret
      | false =>
        obtain ⟨noKey, noSecret⟩ := missing_of_incomplete settled (signer ▸ complete)
        have refused := call_of_missing (.inl noKey) made surroundings.source .wallets
          (fun _ => .error .transport) trivial
        simp only [complete, refused]
        exact .unsigned settled made noKey noSecret

end Looks

end Surroundings

/-- At every place of every history, the step there is made in what the history has left, and
the looks have left nothing. The configuration that is found is the one that the environment
settles, and there is one unless a credential is there without the other. A signer keeps the
base URL, and signs questions that go there. A client fails at the first place where it can. -/
theorem settings_sound_along_history (surroundings : Surroundings) (before later : List Step)
    (step : Step) :
    let reached := surroundings.after before
    ∃ observation behind,
      (surroundings.run (before ++ step :: later))[before.length]? = some (observation, behind) ∧
      (surroundings.after (before.filter fun step => ¬ step.IsLook)).SameSettings reached ∧
      (step.IsLook → behind.SameSettings reached ∧ observation.opened = []) ∧
      (∀ configuration : Configuration, configuration.IsSettledBy reached.environment →
        (Signer.ofConfiguration configuration).baseUrl = configuration.apiUrl ∧
          configuration.MakesClient reached.files reached.builds) ∧
      (step = .configure → ∃ result, observation.finding = .configuration result ∧
        (∀ configuration, result = .ok configuration ↔
          configuration.IsSettledBy reached.environment) ∧
        ∀ error, result = .error error → reached.HasOne error) ∧
      (step = .sign → ∃ result, observation.finding = .signed result ∧ reached.Signs result) ∧
      (step = .connect → ∃ result, observation.finding = .connected result ∧
        reached.Connects result) := by
  intro reached
  refine ⟨_, _, surroundings.run_at before later step,
    Surroundings.SameSettings.after ⟨rfl, rfl⟩ before, reached.step_of_isLook, ?_, ?_, ?_, ?_⟩
  · intro configuration settled
    exact ⟨baseUrl_ofConfiguration settled,
      makesClient_of_isSettledBy settled reached.files reached.builds⟩
  · rintro rfl
    exact ⟨_, rfl, fun configuration => configurationOf_eq_ok_iff_isSettledBy,
      fun error => reached.hasOne_of_error⟩
  · rintro rfl
    exact ⟨_, rfl, reached.sign_signs⟩
  · rintro rfl
    exact ⟨_, rfl, reached.connect_connects⟩

end ExchangeWallet
