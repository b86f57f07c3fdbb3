import ExchangeWallet.Client
import ExchangeWallet.Proofs.Operation.Body
import ExchangeWallet.Proofs.Results
import ExchangeWallet.Proofs.Service.Call
import ExchangeWallet.Proofs.Settings.Configured
import ExchangeWallet.Proofs.Trust.Acceptance
/-!
# Clients of settled configurations

A settled configuration has its base URL in the form in which its signer keeps it, and it has
no credential that its signer would drop. Whether it makes a client depends on its bundle, and
on what the HTTP library makes of the certificates in it. Whether the client can sign depends
on its credentials alone, and shows with its first call.
-/
namespace ExchangeWallet

open Settings (Configuration Environment)
open Signing (NonceSource Request Signer)

variable {files : Trust.Files} {builds : Builds} {environment : Environment}
  {configuration : Configuration}

section Signer

/-- The base URL of a settled configuration is the one of its signer. Both put a slash behind
it, and the second finds one there. -/
theorem baseUrl_ofConfiguration (settled : configuration.IsSettledBy environment) :
    (Signer.ofConfiguration configuration).baseUrl = configuration.apiUrl := by
  obtain ⟨found, _, slashed⟩ := settled.url
  exact Settings.withSlash_of_endsInSlash slashed.ends

/-- A signer lacks a credential that its configuration lacks. -/
theorem isComplete_of_missing (missing : configuration.key = none ∨ configuration.secret = none) :
    (Signer.ofConfiguration configuration).isComplete = false := by
  rw [Signer.ofConfiguration, Signer.isComplete_ofParts_eq_false_iff]
  exact missing.imp .inl .inl

/-- A complete signer has its credentials from its configuration. -/
theorem given_of_complete (complete : (Signer.ofConfiguration configuration).isComplete = true) :
    configuration.key.isSome ∧ configuration.secret.isSome := by
  have present (missing : configuration.key = none ∨ configuration.secret = none) : False := by
    rw [isComplete_of_missing missing] at complete
    cases complete
  exact ⟨Option.isSome_iff_ne_none.mpr fun noKey => present (.inl noKey),
    Option.isSome_iff_ne_none.mpr fun noSecret => present (.inr noSecret)⟩

/-- The signer of a settled configuration lacks one credential only if the configuration has
neither. -/
theorem missing_of_incomplete (settled : configuration.IsSettledBy environment)
    (incomplete : (Signer.ofConfiguration configuration).isComplete = false) :
    configuration.key = none ∧ configuration.secret = none := by
  obtain ⟨keys, secrets, paired⟩ :=
    signer_credentials environment (configurationOf_eq_ok_iff_isSettledBy.mpr settled)
  rw [Signer.isComplete_eq_false_iff, keys, secrets] at incomplete
  rcases incomplete with noKey | noSecret
  · rw [noKey] at paired
    exact ⟨noKey, by simpa using paired.symm⟩
  · rw [noSecret] at paired
    exact ⟨by simpa using paired, noSecret⟩

end Signer

section Client

variable {certificates : Option (List (List UInt8))}

/-- A configuration without a bundle asks for no certificates. -/
theorem certificatesOf_of_unpinned (unpinned : configuration.bundle = none) :
    Client.certificatesOf files configuration = .ok none := by
  rw [Client.certificatesOf, unpinned]

/-- Where the certificates can be had, the HTTP library decides. -/
theorem ofConfiguration_of_certificates
    (had : Client.certificatesOf files configuration = .ok certificates) :
    Client.ofConfiguration files builds configuration =
      if builds certificates then .ok ⟨Signer.ofConfiguration configuration, certificates⟩
      else .error .transport := by
  rw [Client.ofConfiguration, had]
  rfl

/-- Where they cannot, the HTTP library is not asked. -/
theorem ofConfiguration_of_refused {error : WalletError}
    (refused : Client.certificatesOf files configuration = .error error) :
    Client.ofConfiguration files builds configuration = .error error := by
  rw [Client.ofConfiguration, refused]
  rfl

/-- An unusable bundle refuses the client. -/
theorem ofConfiguration_of_unusable {path : String} {fault : Trust.Fault}
    (named : configuration.bundle = some path)
    (unusable : Trust.certificates files path = .error fault) :
    Client.ofConfiguration files builds configuration = .error (.trust fault) := by
  apply ofConfiguration_of_refused
  rw [Client.certificatesOf_of_named named, unusable]
  rfl

/-- A client has the signer of its configuration and the certificates that it asks for. -/
theorem ofConfiguration_eq_ok_iff {client : Client} :
    Client.ofConfiguration files builds configuration = .ok client ↔
      ∃ certificates, Client.certificatesOf files configuration = .ok certificates ∧
        builds certificates = true ∧
        client = ⟨Signer.ofConfiguration configuration, certificates⟩ := by
  cases had : Client.certificatesOf files configuration with
  | error error => simp [ofConfiguration_of_refused had]
  | ok certificates =>
    rw [ofConfiguration_of_certificates had]
    constructor
    · intro made
      split_ifs at made with built
      exact ⟨certificates, rfl, built, (Except.ok.inj made).symm⟩
    · rintro ⟨_, ⟨⟩, built, rfl⟩
      rw [if_pos built]

/-- No client is made only if the bundle is unusable, or the HTTP library does without its
certificates. -/
theorem unusable_or_unbuilt_of_error {error : WalletError}
    (refused : Client.ofConfiguration files builds configuration = .error error) :
    (∃ path fault, configuration.bundle = some path ∧
      Trust.certificates files path = .error fault ∧ error = .trust fault) ∨
    ∃ certificates, Client.certificatesOf files configuration = .ok certificates ∧
      builds certificates = false ∧ error = .transport := by
  cases had : Client.certificatesOf files configuration with
  | ok certificates =>
    rw [ofConfiguration_of_certificates had] at refused
    split_ifs at refused with built
    exact .inr ⟨certificates, rfl, Bool.eq_false_iff.mpr built, (Except.error.inj refused).symm⟩
  | error reason =>
    obtain rfl := Except.error.inj ((ofConfiguration_of_refused had).symm.trans refused)
    cases named : configuration.bundle with
    | none =>
      rw [certificatesOf_of_unpinned named] at had
      cases had
    | some path =>
      rw [Client.certificatesOf_of_named named] at had
      cases found : Trust.certificates files path with
      | ok contents =>
        rw [found] at had
        cases had
      | error fault =>
        rw [found] at had
        exact .inl ⟨path, fault, rfl, found, (Except.error.inj had).symm⟩

variable {client : Client}

/-- A client of a configuration with a bundle has the certificates in the bundle. -/
theorem certificates_of_named {path : String} (named : configuration.bundle = some path)
    (made : Client.ofConfiguration files builds configuration = .ok client) :
    ∃ contents, Trust.certificates files path = .ok contents ∧
      client.certificates = some contents := by
  obtain ⟨certificates, had, _, rfl⟩ := ofConfiguration_eq_ok_iff.mp made
  rw [Client.certificatesOf_of_named named] at had
  obtain ⟨contents, found, rfl⟩ := map_eq_ok_iff.mp (mapError_eq_ok_iff.mp had)
  exact ⟨contents, found, rfl⟩

/-- A client has the signer of its configuration. -/
theorem signer_of_ofConfiguration
    (made : Client.ofConfiguration files builds configuration = .ok client) :
    client.signer = Signer.ofConfiguration configuration := by
  obtain ⟨_, _, _, rfl⟩ := ofConfiguration_eq_ok_iff.mp made
  rfl

/-- A client without credentials refuses every call that can be drafted. -/
theorem call_of_missing (missing : configuration.key = none ∨ configuration.secret = none)
    (made : Client.ofConfiguration files builds configuration = .ok client)
    (source : NonceSource) (operation : Operation) (executor : Executor)
    (within : operation.IsWithinLimit) :
    ((client.service source).call operation executor).1 = ⟨.error .unsigned, []⟩ := by
  have incomplete : (client.service source).signer.isComplete = false := by
    rw [Client.service, Service.start, signer_of_ofConfiguration made]
    exact isComplete_of_missing missing
  rw [Service.call_of_incomplete _ executor (Operation.draft_of_isWithinLimit within) incomplete]

end Client

open Trust.Pem (Layout)

/-- How a configuration makes a client, and what the client goes on with. -/
structure Settings.Configuration.MakesClient (configuration : Configuration)
    (files : Trust.Files) (builds : Builds) : Prop where
  /-- An unusable bundle refuses the client, whichever credentials there are. -/
  unusable : ∀ path fault, configuration.bundle = some path →
    Trust.certificates files path = .error fault →
    Client.ofConfiguration files builds configuration = .error (.trust fault) ∧
      (WalletError.trust fault).kind = .trust
  /-- So a path that cannot be read refuses it, -/
  unreadable : ∀ path fault, configuration.bundle = some path → files path = .error fault →
    Client.ofConfiguration files builds configuration = .error (.trust (.unreadable path fault))
  /-- and a file of sound blocks without a certificate, -/
  bare : ∀ (path : String) (layout : Layout), configuration.bundle = some path →
    files path = .ok layout.bytes → layout.IsSound →
    (∀ block ∈ layout.blocks, block.label ≠ Trust.certificateLabel) →
    Client.ofConfiguration files builds configuration = .error (.trust (.noCertificates path))
  /-- and a file with a broken certificate, or one that it ends in. -/
  spoilt : ∀ (path : String) (layout : Layout), configuration.bundle = some path →
    files path = .ok layout.bytes → layout.IsSpoilt →
    ∃ fault, Client.ofConfiguration files builds configuration = .error (.trust (.malformed fault))
  /-- An HTTP library that does without the certificates refuses the client, too. -/
  unbuilt : ∀ certificates, Client.certificatesOf files configuration = .ok certificates →
    builds certificates = false →
    Client.ofConfiguration files builds configuration = .error .transport
  /-- Without a bundle there is a client, whichever credentials there are, as long as there is
  an HTTP library. -/
  unpinned : configuration.bundle = none → builds none = true →
    ∃ client, Client.ofConfiguration files builds configuration = .ok client ∧
      client.certificates = none
  /-- Missing credentials show with the first call, which sends nothing. -/
  unsigned : configuration.key = none ∨ configuration.secret = none →
    ∀ client, Client.ofConfiguration files builds configuration = .ok client →
      ∀ source operation executor, operation.IsWithinLimit →
        ((client.service source).call operation executor).1 = ⟨.error .unsigned, []⟩ ∧
          WalletError.unsigned.kind = .credentials
  /-- The question for the wallets goes to the base URL. -/
  wallets : ∀ client, Client.ofConfiguration files builds configuration = .ok client →
    ∀ source executor, ∀ request ∈ ((client.service source).call .wallets executor).1.sent,
      request.url = configuration.apiUrl ++ "auth/r/wallets"

/-- A settled configuration makes a client as it should. -/
theorem makesClient_of_isSettledBy (settled : configuration.IsSettledBy environment)
    (files : Trust.Files) (builds : Builds) : configuration.MakesClient files builds where
  unusable := fun _ _ named unusable => ⟨ofConfiguration_of_unusable named unusable, rfl⟩
  unreadable := by
    intro path fault named unreadable
    exact ofConfiguration_of_unusable named (Trust.certificates_of_unreadable unreadable)
  bare := by
    intro path layout named read sound without
    exact ofConfiguration_of_refused ((layout.isJudged named read).bare sound without)
  spoilt := by
    intro path layout named read isSpoilt
    obtain ⟨fault, refused⟩ := (layout.isJudged named read).rejected isSpoilt
    exact ⟨fault, ofConfiguration_of_refused refused⟩
  unbuilt := by
    intro certificates had unbuilt
    rw [ofConfiguration_of_certificates had, unbuilt]
    rfl
  unpinned := by
    intro unpinned built
    rw [ofConfiguration_of_certificates (certificatesOf_of_unpinned unpinned), built]
    exact ⟨_, rfl, rfl⟩
  unsigned := by
    intro missing client made source operation executor within
    exact ⟨call_of_missing missing made source operation executor within, rfl⟩
  wallets := by
    intro client made source executor request sent
    obtain ⟨key, secret, draft, _, _, drafted, rfl⟩ := Service.exists_of_mem_sent _ executor sent
    cases drafted
    rw [← baseUrl_ofConfiguration settled, ← signer_of_ofConfiguration made]
    rfl

end ExchangeWallet
