import ExchangeWallet.Proofs.Settings.Clients
import ExchangeWallet.Proofs.Settings.Population
/-!
# Which variables are heeded

Bytes in one of the four variables are heeded if the configuration has exactly them in the
part that the variable settles. That is so of bytes that are UTF-8, and of no others. A
configuration is then made as if the variable were not set, and filling in replaces the bytes
by what the keychain yields.
-/
namespace ExchangeWallet

open Settings (Configuration Credential Environment IsSlashed Keychain)

namespace Settings

/-- The parts of a configuration. -/
inductive Setting where
  | url
  | key
  | secret
  | bundle
deriving DecidableEq

/-- The variable that settles a part. -/
def Setting.variableName : Setting → String
  | url => urlVariable
  | key => Credential.key.variableName
  | secret => Credential.secret.variableName
  | bundle => bundleVariable

/-- A part of a configuration is what the bytes say. The base URL may have a slash more. -/
inductive Configuration.Heeds (configuration : Configuration) (bytes : ByteArray) :
    Setting → Prop
  | url {url : String} (same : bytes = url.toUTF8)
      (part : IsSlashed url configuration.apiUrl) : Heeds configuration bytes .url
  | key {key : String} (same : bytes = key.toUTF8) (part : configuration.key = some key) :
      Heeds configuration bytes .key
  | secret {secret : String} (same : bytes = secret.toUTF8)
      (part : configuration.secret = some secret) : Heeds configuration bytes .secret
  | bundle {path : String} (same : bytes = path.toUTF8)
      (part : configuration.bundle = some path) : Heeds configuration bytes .bundle

section Heeding

variable {environment : Environment} {configuration : Configuration} {setting : Setting}
  {bytes : ByteArray}

/-- Only the bytes of a text are heeded. -/
theorem Configuration.Heeds.isValidUTF8 (heeds : configuration.Heeds bytes setting) :
    bytes.IsValidUTF8 := by
  cases heeds with
  | url same part => exact isValidUTF8_iff.mpr ⟨_, same⟩
  | key same part => exact isValidUTF8_iff.mpr ⟨_, same⟩
  | secret same part => exact isValidUTF8_iff.mpr ⟨_, same⟩
  | bundle same part => exact isValidUTF8_iff.mpr ⟨_, same⟩

/-- A variable reads in one way only. -/
theorem Environment.Reads.unique {name : String} {first second : Option String}
    (reads : environment.Reads name first) (also : environment.Reads name second) :
    first = second :=
  (reads_iff.mp reads).symm.trans (reads_iff.mp also)

/-- A settled configuration heeds a variable that holds a text. -/
theorem Configuration.IsSettledBy.heeds (settled : configuration.IsSettledBy environment)
    {text : String} (isSet : environment.get? setting.variableName = some text.toUTF8)
    (filled : text ≠ "") : configuration.Heeds text.toUTF8 setting := by
  have reads : environment.Reads setting.variableName (some text) := .text isSet filled
  cases setting with
  | url =>
    obtain ⟨found, also, slashed⟩ := settled.url
    obtain rfl := also.unique reads
    exact .url rfl slashed
  | key => exact .key rfl (settled.key.unique reads)
  | secret => exact .secret rfl (settled.secret.unique reads)
  | bundle => exact .bundle rfl (settled.bundle.unique reads)

/-- A variable whose bytes are no text shows the same once it is not set. -/
theorem Environment.text?_unset_of_foreign {name : String}
    (isSet : environment.get? name = some bytes) (noText : ¬ bytes.IsValidUTF8) (other : String) :
    (environment.unset name).text? other = environment.text? other := by
  by_cases same : other = name
  · subst same
    have unset : (environment.unset other).get? other = none := by simp [get?, Environment.unset]
    rw [isAbsent_iff.mp (.unset unset), isAbsent_iff.mp (.foreign isSet noText)]
  · exact text?_congr (by simp [get?, Environment.unset, same])

/-- Filling in keeps bytes exactly if they are those of a text, or the keychain yields nothing
to put in their place. -/
theorem get?_fillFrom_eq_iff {name : String} (isSet : environment.get? name = some bytes)
    (filled : bytes ≠ ByteArray.empty) (keychain : Keychain) :
    (environment.fillFrom keychain).1.get? name = some bytes ↔
      bytes.IsValidUTF8 ∨ ∀ credential : Credential, name = credential.variableName →
        ∀ text, ¬ keychain.Yields credential text := by
  have fills := fillFrom_fillsIn environment keychain
  rw [← isSet]
  constructor
  · intro kept
    by_contra replaced
    obtain ⟨noText, given⟩ := not_or.mp replaced
    push Not at given
    obtain ⟨credential, rfl, text, yields⟩ := given
    refine (fills.changed_iff _).mpr ⟨credential, ?_, rfl⟩ kept
    exact (fills.mem_filled_iff credential).mpr ⟨.foreign isSet noText, text, yields⟩
  · intro heeded
    by_contra changed
    obtain ⟨credential, member, rfl⟩ := (fills.changed_iff name).mp changed
    obtain ⟨absent, text, yields⟩ := (fills.mem_filled_iff credential).mp member
    rcases heeded with valid | without
    · obtain ⟨shown, rfl⟩ := isValidUTF8_iff.mp valid
      have present := Environment.text?_eq_some_iff.mpr
        ⟨isSet, fun isEmpty => filled (toUTF8_eq_empty_iff.mpr isEmpty)⟩
      rw [Environment.isAbsent_iff.mp absent] at present
      cases present
    · exact without credential rfl text yields

end Heeding

end Settings

/-- A configuration depends on what the variables show alone. -/
theorem configurationOf_congr {first second : Environment}
    (same : ∀ name, first.text? name = second.text? name) :
    configurationOf first = configurationOf second := by
  simp only [configurationOf, Configuration.ofEnvironment, same]

/-- What becomes of the bytes in the variable of a setting. -/
structure Settings.Setting.IsHeededAsText (setting : Setting) (environment : Environment)
    (bytes : ByteArray) : Prop where
  /-- The bytes of a text are heeded wherever there is a configuration, and no others. -/
  heeded_iff : ∀ configuration : Configuration, configurationOf environment = .ok configuration →
    (configuration.Heeds bytes setting ↔ bytes.IsValidUTF8)
  /-- Other bytes are as good as none. -/
  ignored : ¬ bytes.IsValidUTF8 →
    configurationOf environment = configurationOf (environment.unset setting.variableName)
  /-- No client leaves a bundle that is named by a text for the default roots. -/
  pinned : setting = .bundle → bytes.IsValidUTF8 → ∀ files builds client,
    configurationOf environment >>= Client.ofConfiguration files builds = .ok client →
      ∃ path certificates, bytes = path.toUTF8 ∧
        Trust.certificates files path = .ok certificates ∧ client.certificates = some certificates
  /-- No client leaves a URL that is a text for the default one. -/
  aimed : setting = .url → bytes.IsValidUTF8 → ∀ files builds client,
    configurationOf environment >>= Client.ofConfiguration files builds = .ok client →
      ∃ url, bytes = url.toUTF8 ∧ IsSlashed url client.signer.baseUrl

/-- A variable is heeded as a text. -/
theorem isHeededAsText {environment : Environment} {setting : Settings.Setting}
    {bytes : ByteArray} (isSet : environment.get? setting.variableName = some bytes)
    (filled : bytes ≠ ByteArray.empty) : setting.IsHeededAsText environment bytes := by
  have heeds (configuration : Configuration)
      (configured : configurationOf environment = .ok configuration)
      (valid : bytes.IsValidUTF8) : configuration.Heeds bytes setting := by
    obtain ⟨text, rfl⟩ := Settings.isValidUTF8_iff.mp valid
    exact (configurationOf_eq_ok_iff_isSettledBy.mp configured).heeds isSet
      fun isEmpty => filled (Settings.toUTF8_eq_empty_iff.mpr isEmpty)
  refine ⟨?_, ?_, ?_, ?_⟩
  · intro configuration configured
    exact ⟨Configuration.Heeds.isValidUTF8, heeds configuration configured⟩
  · intro noText
    exact configurationOf_congr fun name =>
      (Environment.text?_unset_of_foreign isSet noText name).symm
  · rintro rfl valid files builds client connected
    obtain ⟨configuration, configured, made⟩ := bind_eq_ok_iff.mp connected
    cases heeds configuration configured valid with
    | bundle same part =>
      obtain ⟨certificates, found, kept⟩ := certificates_of_named part made
      exact ⟨_, certificates, same, found, kept⟩
  · rintro rfl valid files builds client connected
    obtain ⟨configuration, configured, made⟩ := bind_eq_ok_iff.mp connected
    have settled := configurationOf_eq_ok_iff_isSettledBy.mp configured
    cases heeds configuration configured valid with
    | url same part =>
      rw [signer_of_ofConfiguration made, baseUrl_ofConfiguration settled]
      exact ⟨_, same, part⟩

/-- Bytes in a variable are heeded by the configuration, by the clients that it makes, and by
filling in, as far as they are those of a text. All others are passed over: a configuration is
made without them, and filling in puts what the keychain yields in their place. -/
theorem only_texts_are_heeded (environment : Environment) (bytes : ByteArray)
    (filled : bytes ≠ ByteArray.empty) :
    (∀ setting : Settings.Setting, environment.get? setting.variableName = some bytes →
      setting.IsHeededAsText environment bytes) ∧
    ∀ name keychain, environment.get? name = some bytes →
      ((environment.fillFrom keychain).1.get? name = some bytes ↔
        bytes.IsValidUTF8 ∨ ∀ credential : Credential, name = credential.variableName →
          ∀ text, ¬ keychain.Yields credential text) := by
  constructor
  · intro setting isSet
    exact isHeededAsText isSet filled
  · intro name keychain isSet
    exact Settings.get?_fillFrom_eq_iff isSet filled keychain

/-- A bundle that is named by a text, beside a key that is none. -/
theorem named_bundle_is_heeded :
    let path := "/etc/ssl/bfx.pem"
    let environment :=
      (Environment.empty.set "BFX_API_KEY" ⟨#[0xff]⟩).set "BFX_CA_BUNDLE" path.toUTF8
    path.toUTF8 ≠ ByteArray.empty ∧
      Settings.Setting.bundle.IsHeededAsText environment path.toUTF8 ∧
      ∀ keychain, (environment.fillFrom keychain).1.get? "BFX_CA_BUNDLE" = some path.toUTF8 := by
  intro path environment
  have filled : path.toUTF8 ≠ ByteArray.empty := by decide
  obtain ⟨heeded, kept⟩ := only_texts_are_heeded environment path.toUTF8 filled
  refine ⟨filled, heeded .bundle rfl, fun keychain => ?_⟩
  exact (kept "BFX_CA_BUNDLE" keychain rfl).mpr (.inl path.isValidUTF8)

/-- Not all bytes are heeded. A single byte that is no text names no bundle, and is replaced by
the key in the keychain. -/
theorem not_every_variable_heeded :
    (¬ ∀ (environment : Environment) (setting : Settings.Setting) (bytes : ByteArray),
      environment.get? setting.variableName = some bytes → bytes ≠ ByteArray.empty →
        ∀ configuration, configurationOf environment = .ok configuration →
          configuration.Heeds bytes setting) ∧
    ¬ ∀ (environment : Environment) (keychain : Keychain) (name : String) (bytes : ByteArray),
      environment.get? name = some bytes → bytes ≠ ByteArray.empty →
        (environment.fillFrom keychain).1.get? name = some bytes := by
  have noText : ¬ (ByteArray.mk #[0xff]).IsValidUTF8 := by decide
  have filled : ByteArray.mk #[0xff] ≠ ByteArray.empty := by decide
  constructor
  · intro heeded
    let environment := Environment.empty.set "BFX_CA_BUNDLE" ⟨#[0xff]⟩
    have settled : Configuration.IsSettledBy ⟨Settings.defaultUrl, none, none, none⟩ environment :=
      { url := ⟨none, .absent (.unset rfl), Settings.isSlashed_defaultUrl⟩
        key := .absent (.unset rfl)
        secret := .absent (.unset rfl)
        paired := rfl
        bundle := .absent (.foreign rfl noText) }
    exact noText (heeded environment .bundle _ rfl filled _
      (configurationOf_eq_ok_iff_isSettledBy.mpr settled)).isValidUTF8
  · intro kept
    let environment := Environment.empty.set "BFX_API_KEY" ⟨#[0xff]⟩
    let keychain := Keychain.empty.set "bitfinex_api_key" (.stored "k".toUTF8)
    have yields : keychain.Yields .key "k" := ⟨rfl, by decide⟩
    have replaced :=
      Settings.get?_fillFrom_of_yields environment keychain (.foreign rfl noText) yields
    have same := replaced.symm.trans (kept environment keychain "BFX_API_KEY" _ rfl filled)
    exact absurd (Option.some.inj same) (by decide)

end ExchangeWallet
