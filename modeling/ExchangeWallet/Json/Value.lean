import ExchangeWallet.Binary64.Basic
/-!
# JSON values

A number is a whole number in the common range of signed and unsigned words of
64 bits, or a binary floating-point number. The two are never confused: `1` and
`1.0` are different values.

An object is the list of its fields in strictly ascending order of their keys,
by code point. Setting a field keeps the order and replaces an earlier value of
the same key, so that one object has one list.
-/
namespace ExchangeWallet.Json

-- The power of natural exponents, also where another one is in scope.
attribute [local instance (high)] instPowNat

/-- A JSON number. -/
inductive Number where
  | whole (value : Int) (inRange : -(2 ^ (63 : Nat)) ≤ value ∧ value < 2 ^ (64 : Nat))
  | real (value : Binary64)
deriving DecidableEq

namespace Number

/-- The whole number, if it is in range. -/
def ofInt? (value : Int) : Option Number :=
  if inRange : -(2 ^ (63 : Nat)) ≤ value ∧ value < 2 ^ (64 : Nat) then some (whole value inRange) else none

/-- A word of 64 bits as a number. -/
def ofUInt64 (word : UInt64) : Number :=
  whole word.toNat (by have := word.toNat_lt; omega)

/-- A signed word of 64 bits as a number. -/
def ofInt64 (word : Int64) : Number :=
  whole word.toInt (by
    have := Int64.le_toInt word
    have := Int64.toInt_lt word
    omega)

end Number

/-- A JSON value. -/
inductive Value where
  | null
  | bool (value : Bool)
  | number (value : Number)
  | string (text : String)
  | array (items : List Value)
  | object (fields : List (String × Value))

/-- The fields of an object, in ascending order of their keys. -/
abbrev Fields :=
  List (String × Value)

namespace Fields

/-- Sets the value of a key and leaves the other fields as they are. -/
def insert (key : String) (value : Value) : Fields → Fields
  | [] => [(key, value)]
  | (otherKey, otherValue) :: rest =>
    if key < otherKey then (key, value) :: (otherKey, otherValue) :: rest
    else if key = otherKey then (key, value) :: rest
    else (otherKey, otherValue) :: insert key value rest

/-- The object with the given fields, of which a later one replaces an earlier
one of the same key. -/
def ofList (fields : List (String × Value)) : Fields :=
  fields.foldl (fun object field => insert field.1 field.2 object) []

end Fields

namespace Value

instance : Inhabited Value :=
  ⟨null⟩

/-- The empty object. -/
def emptyObject : Value :=
  object []

/-- The items of an array. -/
def items? : Value → Option (List Value)
  | array items => some items
  | _ => none

/-- The text of a string. -/
def string? : Value → Option String
  | string text => some text
  | _ => none

/-- The fields of an object. -/
def fields? : Value → Option Fields
  | object fields => some fields
  | _ => none

end Value

end ExchangeWallet.Json
