import ExchangeWallet.Settings.Credential
import ExchangeWallet.Settings.Environment
/-!
# The keychain

The system's keychain keeps entries under one service. An entry may be missing, may
refuse to be opened, or may refuse to be read; a stored value need not be a text.
Whatever goes wrong, a credential then counts as not stored. Only an entry that was
opened and could not be read leaves a notice.

Filling in copies the stored credentials into the variables that read as not set.
It looks up nothing else, and it changes nothing else.
-/
namespace ExchangeWallet.Settings

/-- The service that the entries belong to. -/
def keychainService : String :=
  "bfx-wallet"

/-- What the keychain holds under the name of an entry. -/
inductive Entry where
  | missing
  | stored (value : ByteArray)
  | unreadable
  | unopenable

/-- The entries by name. -/
def Keychain : Type :=
  String → Entry

/-- Why an opened entry gave no text. -/
inductive LookupFault where
  | storageLocked
  | notText
deriving DecidableEq

/-- The wording of a fault. -/
def LookupFault.message : LookupFault → String
  | storageLocked => "Couldn't access platform secure storage: locked"
  | notText => "Data is not UTF-8 encoded"

/-- What looking up an entry gave. -/
inductive Lookup where
  | found (text : String)
  | nothing
  | failed (fault : LookupFault)
deriving DecidableEq

namespace Lookup

/-- The text that was found, which may be empty. -/
def text? : Lookup → Option String
  | found text => some text
  | _ => none

/-- The text that was found, if it is not empty. -/
def value? (lookup : Lookup) : Option String :=
  lookup.text?.filter fun text => text ≠ ""

end Lookup

/-- Looks into an entry. -/
def Entry.lookup : Entry → Lookup
  | missing => .nothing
  | stored value => ((Text.ofBytes? value).map Lookup.found).getD (.failed .notText)
  | unreadable => .failed .storageLocked
  | unopenable => .nothing

namespace Keychain

/-- A keychain without entries. -/
def empty : Keychain :=
  fun _ => .missing

/-- The keychain with one entry changed. -/
def set (keychain : Keychain) (name : String) (entry : Entry) : Keychain :=
  fun other => if other = name then entry else keychain other

/-- Looks up a credential. -/
def lookup (keychain : Keychain) (credential : Credential) : Lookup :=
  (keychain credential.entryName).lookup

end Keychain

/-- A credential that was looked up, and what that gave. -/
structure Attempt where
  credential : Credential
  lookup : Lookup
deriving DecidableEq

/-- Looks up those of the given credentials whose variables read as not set, one
after the other, and sets the variables of those that are found. Gives the changed
environment and the attempts in order. -/
def fillIn (keychain : Keychain) :
    List Credential → Environment → Environment × List Attempt
  | [], environment => (environment, [])
  | credential :: rest, environment =>
    match environment.text? credential.variableName with
    | some _ => fillIn keychain rest environment
    | none =>
      let lookup := keychain.lookup credential
      let changed := match lookup.value? with
        | some value => environment.set credential.variableName value.toUTF8
        | none => environment
      let (final, attempts) := fillIn keychain rest changed
      (final, ⟨credential, lookup⟩ :: attempts)

/-- Fills in both credentials. -/
def Environment.fillFrom (environment : Environment) (keychain : Keychain) :
    Environment × List Attempt :=
  fillIn keychain Credential.all environment

/-- The credentials that attempts have filled in. -/
def filledBy (attempts : List Attempt) : List Credential :=
  (attempts.filter fun attempt => attempt.lookup.value?.isSome).map Attempt.credential

end ExchangeWallet.Settings
