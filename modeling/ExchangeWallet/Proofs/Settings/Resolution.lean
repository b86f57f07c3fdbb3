import ExchangeWallet.Client
import ExchangeWallet.Proofs.Settings.Filling
import ExchangeWallet.Proofs.Settings.Slashes
import ExchangeWallet.Proofs.Signing.Completeness
import ExchangeWallet.Proofs.Signing.Request
/-!
# Resolution of credentials

A credential is what its variable holds, or else what its entry in the keychain holds, or
else nothing. To hold something is to hold the bytes of a text that is not empty; the empty
text and bytes that are not UTF-8 are as good as nothing, in the variable as in the entry,
and so is an entry that cannot be opened or read.

Three places ask whether a credential is there: filling in, the configuration, and the
signer. They agree.
-/
namespace ExchangeWallet

open Settings (Configuration Credential Environment Keychain)
open Signing (NonceSource Permission Request Signer)

/-- Bytes hold the given text, which is not empty. -/
def Holds (bytes : ByteArray) (text : String) : Prop :=
  bytes = text.toUTF8 ∧ text ≠ ""

/-- What a credential is resolved to. -/
inductive Resolves (environment : Environment) (keychain : Keychain) (credential : Credential) :
    Option String → Prop
  | fromVariable {bytes : ByteArray} {text : String}
      (isSet : environment.get? credential.variableName = some bytes) (held : Holds bytes text) :
      Resolves environment keychain credential (some text)
  | fromEntry {bytes : ByteArray} {text : String}
      (unset : ∀ other, environment.get? credential.variableName = some other →
        ∀ text, ¬ Holds other text)
      (stored : keychain credential.entryName = .stored bytes) (held : Holds bytes text) :
      Resolves environment keychain credential (some text)
  | fromNowhere
      (unset : ∀ other, environment.get? credential.variableName = some other →
        ∀ text, ¬ Holds other text)
      (absent : ∀ other, keychain credential.entryName = .stored other →
        ∀ text, ¬ Holds other text) :
      Resolves environment keychain credential none

section Resolution

variable {environment : Environment} {keychain : Keychain} {credential : Credential}

/-- A variable shows nothing exactly if it is not set to bytes that hold a text. -/
theorem text?_eq_none_iff_not_holds {name : String} :
    environment.text? name = none ↔
      ∀ bytes, environment.get? name = some bytes → ∀ text, ¬ Holds bytes text := by
  rw [Environment.text?_eq_none_iff]
  constructor
  · rintro unset bytes isSet text ⟨rfl, filled⟩
    exact unset text filled isSet
  · intro unset text filled isSet
    exact unset _ isSet text ⟨rfl, filled⟩

/-- An entry gives nothing exactly if it does not store bytes that hold a text. -/
theorem value?_lookup_eq_none_iff :
    (keychain.lookup credential).value? = none ↔
      ∀ bytes, keychain credential.entryName = .stored bytes → ∀ text, ¬ Holds bytes text := by
  rw [Option.eq_none_iff_forall_ne_some]
  constructor
  · rintro absent bytes stored text ⟨rfl, filled⟩
    exact absent text (Settings.value?_lookup_eq_some_iff.mpr ⟨stored, filled⟩)
  · intro absent text found
    obtain ⟨stored, filled⟩ := Settings.value?_lookup_eq_some_iff.mp found
    exact absent _ stored text ⟨rfl, filled⟩

/-- A credential is resolved to what its variable shows once it is filled in. -/
theorem resolves_iff {resolved : Option String} :
    Resolves environment keychain credential resolved ↔
      (environment.fillFrom keychain).1.text? credential.variableName = resolved := by
  rw [Settings.text?_fillFrom]
  constructor
  · intro resolves
    cases resolves with
    | fromVariable isSet held =>
      obtain ⟨rfl, filled⟩ := held
      rw [Environment.text?_eq_some_iff.mpr ⟨isSet, filled⟩, Option.some_or]
    | fromEntry unset stored held =>
      obtain ⟨rfl, filled⟩ := held
      rw [text?_eq_none_iff_not_holds.mpr unset, Option.none_or]
      exact Settings.value?_lookup_eq_some_iff.mpr ⟨stored, filled⟩
    | fromNowhere unset absent =>
      rw [text?_eq_none_iff_not_holds.mpr unset, Option.none_or]
      exact value?_lookup_eq_none_iff.mpr absent
  · rintro rfl
    cases shown : environment.text? credential.variableName with
    | some text =>
      obtain ⟨isSet, filled⟩ := Environment.text?_eq_some_iff.mp shown
      exact .fromVariable isSet ⟨rfl, filled⟩
    | none =>
      have unset := text?_eq_none_iff_not_holds.mp shown
      cases found : (keychain.lookup credential).value? with
      | some text =>
        obtain ⟨stored, filled⟩ := Settings.value?_lookup_eq_some_iff.mp found
        exact .fromEntry unset stored ⟨rfl, filled⟩
      | none => exact .fromNowhere unset (value?_lookup_eq_none_iff.mp found)

end Resolution

section Configuration

variable (environment : Environment)

/-- The configuration that an environment gives with the credentials resolved as stated. -/
def Settings.Environment.configured (resolved : Credential → Option String) : Configuration where
  apiUrl := Settings.withSlash ((environment.text? Settings.urlVariable).getD Settings.defaultUrl)
  key := resolved .key
  secret := resolved .secret
  bundle := environment.text? Settings.bundleVariable

/-- Credentials that are both there, or both not, are what the configuration has. -/
theorem configurationOf_of_both
    (both : (environment.text? Credential.key.variableName).isSome =
      (environment.text? Credential.secret.variableName).isSome) :
    configurationOf environment =
      .ok (environment.configured fun credential => environment.text? credential.variableName) := by
  unfold configurationOf Configuration.ofEnvironment Environment.configured
  cases hasKey : environment.text? Credential.key.variableName <;>
    cases hasSecret : environment.text? Credential.secret.variableName <;>
    simp_all [Except.mapError]

/-- A credential without the other one is refused, and the other one is named. -/
theorem configurationOf_of_one {credential : Credential}
    (missing : environment.text? credential.variableName = none)
    (given : (environment.text? credential.other.variableName).isSome) :
    configurationOf environment = .error (.credentialMissing credential) := by
  obtain ⟨text, shown⟩ := Option.isSome_iff_exists.mp given
  cases credential with
  | key =>
    rw [Credential.other] at shown
    simp [configurationOf, Configuration.ofEnvironment, missing, shown, Except.mapError]
  | secret =>
    rw [Credential.other] at shown
    simp [configurationOf, Configuration.ofEnvironment, missing, shown, Except.mapError]

/-- Where not both credentials are there and not both are missing, one is missing. -/
theorem exists_missing_of_not_both
    (unlike : (environment.text? Credential.key.variableName).isSome ≠
      (environment.text? Credential.secret.variableName).isSome) :
    ∃ credential : Credential, environment.text? credential.variableName = none ∧
      (environment.text? credential.other.variableName).isSome := by
  cases hasKey : environment.text? Credential.key.variableName with
  | none =>
    have hasSecret : environment.text? Credential.secret.variableName ≠ none := by
      simpa [hasKey] using unlike
    exact ⟨.key, hasKey, Option.isSome_iff_ne_none.mpr hasSecret⟩
  | some key =>
    have noSecret : environment.text? Credential.secret.variableName = none := by
      simpa [hasKey] using unlike
    exact ⟨.secret, noSecret, Option.isSome_of_eq_some hasKey⟩

/-- There is a configuration exactly if both credentials are there, or neither is. -/
theorem configurationOf_eq_ok_iff (configuration : Configuration) :
    configurationOf environment = .ok configuration ↔
      (environment.text? Credential.key.variableName).isSome =
          (environment.text? Credential.secret.variableName).isSome ∧
        configuration =
          environment.configured fun credential => environment.text? credential.variableName := by
  by_cases both : (environment.text? Credential.key.variableName).isSome =
      (environment.text? Credential.secret.variableName).isSome
  · rw [configurationOf_of_both environment both, Except.ok.injEq, eq_comm]
    exact (and_iff_right both).symm
  · obtain ⟨credential, missing, given⟩ := exists_missing_of_not_both environment both
    rw [configurationOf_of_one environment missing given]
    simp [both]

/-- What a variable shows is nothing that a signer would drop. -/
theorem nonempty_text? (name : String) :
    Signer.nonempty (environment.text? name) = environment.text? name := by
  cases shown : environment.text? name with
  | none => rfl
  | some text => exact Signer.nonempty_some (Environment.text?_eq_some_iff.mp shown).2

/-- The signer of a configuration that an environment gives has the credentials that are
shown. -/
theorem signer_of_shown {resolved : Credential → Option String}
    (shown : ∀ credential, resolved credential = environment.text? credential.variableName) :
    (Signer.ofConfiguration (environment.configured resolved)).key = resolved .key ∧
      (Signer.ofConfiguration (environment.configured resolved)).secret = resolved .secret := by
  have kept (credential : Credential) :
      Signer.nonempty (resolved credential) = resolved credential := by
    rw [shown credential, nonempty_text?]
  exact ⟨kept .key, kept .secret⟩

/-- Such a signer signs exactly if both credentials are there. -/
theorem isComplete_ofConfiguration {resolved : Credential → Option String}
    (shown : ∀ credential, resolved credential = environment.text? credential.variableName) :
    (Signer.ofConfiguration (environment.configured resolved)).isComplete = true ↔
      (resolved .key).isSome ∧ (resolved .secret).isSome := by
  obtain ⟨keys, secrets⟩ := signer_of_shown environment shown
  rw [Signer.isComplete, keys, secrets, Bool.and_eq_true]

/-- With both credentials it takes one nonce, and signs a request for the base URL of the
configuration with them. The signer puts no second slash behind the URL. -/
theorem request_of_shown {resolved : Credential → Option String}
    (shown : ∀ credential, resolved credential = environment.text? credential.variableName)
    {key secret : String} (hasKey : resolved .key = some key)
    (hasSecret : resolved .secret = some secret) (permission : Permission) (endpoint : String)
    (body : Json.Value) (source : NonceSource) :
    let configuration := environment.configured resolved
    ∃ request : Request,
      (Signer.ofConfiguration configuration).request permission endpoint body source =
        (.ok request, source.issue.2) ∧
      request.IsSigned configuration.apiUrl key secret permission endpoint body
        source.issue.1.toNat := by
  intro configuration
  obtain ⟨keys, secrets⟩ := signer_of_shown environment shown
  have base : (Signer.ofConfiguration configuration).baseUrl = configuration.apiUrl :=
    Settings.withSlash_withSlash _
  refine ⟨_, Signer.request_of_complete _ _ _ _ (keys.trans hasKey) (secrets.trans hasSecret), ?_⟩
  rw [base]
  exact Signing.compose_isSigned ..

/-- Where there is a configuration, its signer has the credentials that it has. -/
theorem signer_credentials {configuration : Configuration}
    (configured : configurationOf environment = .ok configuration) :
    (Signer.ofConfiguration configuration).key = configuration.key ∧
      (Signer.ofConfiguration configuration).secret = configuration.secret ∧
      configuration.key.isSome = configuration.secret.isSome := by
  obtain ⟨both, rfl⟩ := (configurationOf_eq_ok_iff environment configuration).mp configured
  exact ⟨nonempty_text? environment _, nonempty_text? environment _, both⟩

/-- Filling in leaves what the configuration has beside the credentials. -/
theorem configured_fillFrom (keychain : Keychain) (resolved : Credential → Option String) :
    (environment.fillFrom keychain).1.configured resolved = environment.configured resolved := by
  have left (name : String) (other : ∀ credential : Credential, name ≠ credential.variableName) :
      (environment.fillFrom keychain).1.text? name = environment.text? name :=
    Environment.text?_congr (Settings.get?_fillFrom_of_ne environment keychain other)
  have url := left Settings.urlVariable fun credential => by cases credential <;> decide
  have bundle :=
    left Settings.bundleVariable fun credential => by cases credential <;> decide
  rw [Environment.configured, Environment.configured, url, bundle]

end Configuration

/-- With every environment and keychain, filling in and then reading the configuration
resolves the credentials. There is a configuration exactly if both credentials are resolved
to something, or neither is. Then it has what they are resolved to, and all else as the
environment had it before filling in. Its signer signs exactly if both are something. It names
the resolved key then and signs under the resolved secret, with the next nonce; otherwise it
refuses, and no nonce is used. One credential without the other is refused, and the other one
is named. -/
theorem credentials_resolved (environment : Environment) (keychain : Keychain) :
    ∃ resolved : Credential → Option String,
      (∀ credential found,
        Resolves environment keychain credential found ↔ found = resolved credential) ∧
      let result := configurationOf (environment.fillFrom keychain).1
      ((∃ configuration, result = .ok configuration) ↔
        (resolved .key).isSome = (resolved .secret).isSome) ∧
      (∀ configuration, result = .ok configuration →
        configuration = environment.configured resolved ∧
        ∀ permission endpoint body source,
          let answer := (Signer.ofConfiguration configuration).request permission endpoint body
            source
          ((∃ request, answer.1 = .ok request) ↔
            (resolved .key).isSome ∧ (resolved .secret).isSome) ∧
          (∀ key secret, resolved .key = some key → resolved .secret = some secret →
            ∃ request : Request, answer = (.ok request, source.issue.2) ∧
              request.IsSigned configuration.apiUrl key secret permission endpoint body
                source.issue.1.toNat) ∧
          (¬ ((resolved .key).isSome ∧ (resolved .secret).isSome) →
            answer = (.error .unsigned, source) ∧ WalletError.unsigned.kind = .credentials)) ∧
      ∀ credential, resolved credential = none → (resolved credential.other).isSome →
        result = .error (.credentialMissing credential) ∧
          (WalletError.credentialMissing credential).kind = .configuration ∧
          (WalletError.credentialMissing credential).detail =
            credential.other.variableName ++ " is set but " ++ credential.variableName ++
              " is missing" := by
  let filled := (environment.fillFrom keychain).1
  let resolved := fun credential : Credential => filled.text? credential.variableName
  refine ⟨resolved, fun credential found => resolves_iff.trans eq_comm, ?_⟩
  intro result
  have refused (credential : Credential) (missing : resolved credential = none)
      (given : (resolved credential.other).isSome) :
      result = .error (.credentialMissing credential) :=
    configurationOf_of_one filled missing given
  have configured (configuration : Configuration) : result = .ok configuration ↔
      (resolved .key).isSome = (resolved .secret).isSome ∧
        configuration = environment.configured resolved := by
    rw [← configured_fillFrom environment keychain]
    exact configurationOf_eq_ok_iff filled configuration
  refine ⟨?_, ?_, ?_⟩
  · constructor
    · rintro ⟨configuration, given⟩
      exact ((configured configuration).mp given).1
    · intro both
      exact ⟨_, (configured _).mpr ⟨both, rfl⟩⟩
  · intro configuration given
    obtain ⟨_, rfl⟩ := (configured configuration).mp given
    refine ⟨rfl, ?_⟩
    intro permission endpoint body source answer
    have shown (credential : Credential) :
        resolved credential = filled.text? credential.variableName := rfl
    have complete := isComplete_ofConfiguration filled shown
    rw [configured_fillFrom] at complete
    refine ⟨?_, ?_, ?_⟩
    · rw [← complete]
      exact Signer.request_ok_iff permission endpoint body source _
    · intro key secret hasKey hasSecret
      have signed :=
        request_of_shown filled shown hasKey hasSecret permission endpoint body source
      rw [configured_fillFrom] at signed
      exact signed
    · intro incomplete
      rw [← complete] at incomplete
      have refused := Signer.request_of_incomplete permission endpoint body source
        (Bool.eq_false_iff.mpr incomplete)
      exact ⟨refused, rfl⟩
  · intro credential missing given
    refine ⟨refused credential missing given, rfl, ?_⟩
    cases credential <;> rfl

end ExchangeWallet
