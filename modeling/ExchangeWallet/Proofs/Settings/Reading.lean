import ExchangeWallet.Proofs.Settings.Filling
/-!
# What a variable reads as

A variable that is not set, one that holds no bytes and one whose bytes are not UTF-8 read
the same: as absent. Every other variable reads as the text whose bytes it holds. Entries of
the keychain are read in the same way.
-/
namespace ExchangeWallet.Settings

/-- A variable reads as absent. -/
inductive Environment.IsAbsent (environment : Environment) (name : String) : Prop
  | unset (unset : environment.get? name = none)
  | empty (empty : environment.get? name = some ByteArray.empty)
  | foreign {bytes : ByteArray} (isSet : environment.get? name = some bytes)
      (noText : ¬ bytes.IsValidUTF8)

/-- What a variable reads as. -/
inductive Environment.Reads (environment : Environment) (name : String) : Option String → Prop
  | absent (absent : environment.IsAbsent name) : Reads environment name none
  | text {text : String} (isSet : environment.get? name = some text.toUTF8)
      (filled : text ≠ "") : Reads environment name (some text)

/-- The entry of a credential yields a text. -/
structure Keychain.Yields (keychain : Keychain) (credential : Credential) (text : String) :
    Prop where
  stored : keychain credential.entryName = .stored text.toUTF8
  filled : text ≠ ""

/-- Bytes are UTF-8 exactly if they are those of a text. -/
theorem isValidUTF8_iff {bytes : ByteArray} :
    bytes.IsValidUTF8 ↔ ∃ text : String, bytes = text.toUTF8 := by
  constructor
  · intro valid
    exact ⟨.ofByteArray bytes valid, rfl⟩
  · rintro ⟨text, rfl⟩
    exact text.isValidUTF8

/-- Only the empty text has no bytes. -/
theorem toUTF8_eq_empty_iff {text : String} : text.toUTF8 = ByteArray.empty ↔ text = "" :=
  String.toByteArray_inj (t := "")

namespace Environment

variable {environment : Environment} {name : String}

/-- A variable reads as absent exactly if it shows nothing. -/
theorem isAbsent_iff : environment.IsAbsent name ↔ environment.text? name = none := by
  rw [text?_eq_none_iff]
  constructor
  · intro absent text filled isSet
    cases absent with
    | unset unset => rw [unset] at isSet; cases isSet
    | empty empty =>
      obtain rfl : text = "" := by
        rw [empty] at isSet
        exact toUTF8_eq_empty_iff.mp (Option.some.inj isSet).symm
      exact filled rfl
    | foreign holds noText =>
      rw [holds] at isSet
      exact noText (isValidUTF8_iff.mpr ⟨text, Option.some.inj isSet⟩)
  · intro shows
    cases holds : environment.get? name with
    | none => exact .unset holds
    | some bytes =>
      by_cases valid : bytes.IsValidUTF8
      · obtain ⟨text, rfl⟩ := isValidUTF8_iff.mp valid
        obtain rfl : text = "" := not_not.mp fun filled => shows text filled holds
        exact .empty holds
      · exact .foreign holds valid

/-- A variable reads as what it shows. -/
theorem reads_iff {found : Option String} :
    environment.Reads name found ↔ environment.text? name = found := by
  constructor
  · intro reads
    cases reads with
    | absent absent => exact isAbsent_iff.mp absent
    | text isSet filled => exact text?_eq_some_iff.mpr ⟨isSet, filled⟩
  · rintro rfl
    cases shown : environment.text? name with
    | none => exact .absent (isAbsent_iff.mpr shown)
    | some text =>
      obtain ⟨isSet, filled⟩ := text?_eq_some_iff.mp shown
      exact .text isSet filled

end Environment

/-- An entry yields the text that looking it up gives. -/
theorem Keychain.yields_iff {keychain : Keychain} {credential : Credential} {text : String} :
    keychain.Yields credential text ↔ (keychain.lookup credential).value? = some text := by
  rw [value?_lookup_eq_some_iff]
  exact ⟨fun yields => ⟨yields.stored, yields.filled⟩, fun ⟨stored, filled⟩ => ⟨stored, filled⟩⟩

end ExchangeWallet.Settings
