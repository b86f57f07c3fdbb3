import ExchangeWallet.Text.Utf8
/-!
# The environment

A variable holds any bytes. Bytes that are not UTF-8 and the empty text read as if
the variable were not set, for every reader of the environment.
-/
namespace ExchangeWallet.Settings

/-- The value of each variable that is set. -/
def Environment : Type :=
  String → Option ByteArray

namespace Environment

/-- No variable is set. -/
def empty : Environment :=
  fun _ => none

/-- The bytes of a variable. -/
def get? (environment : Environment) (name : String) : Option ByteArray :=
  environment name

/-- The environment with one variable set. -/
def set (environment : Environment) (name : String) (value : ByteArray) : Environment :=
  fun other => if other = name then some value else environment other

/-- The environment with one variable not set. -/
def unset (environment : Environment) (name : String) : Environment :=
  fun other => if other = name then none else environment other

/-- The text of a variable, if it holds one that is not empty. -/
def text? (environment : Environment) (name : String) : Option String :=
  ((environment.get? name).bind Text.ofBytes?).filter fun text => text ≠ ""

/-- A variable reads as it was set. -/
@[simp] theorem get?_set_self (environment : Environment) (name : String) (value : ByteArray) :
    (environment.set name value).get? name = some value := by
  simp [get?, set]

/-- Setting a variable leaves the others as they are. -/
theorem get?_set_of_ne (environment : Environment) {name other : String} (value : ByteArray)
    (distinct : other ≠ name) : (environment.set name value).get? other = environment.get? other := by
  simp [get?, set, distinct]

end Environment

end ExchangeWallet.Settings
