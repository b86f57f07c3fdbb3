import ExchangeWallet.Numeral
import ExchangeWallet.Binary64.Shortest
import ExchangeWallet.Json.Value
/-!
# Compact JSON text

A value is written without any blank. Whole numbers are written in full, floating
ones in the shortest form that is read back to them. A string escapes the quote,
the backslash and the control characters below the space, by their short names
where they have one; every other character stands for itself.
-/
namespace ExchangeWallet.Json

/-- The text of a number. -/
def Number.text : Number → List Char
  | .whole value _ => Numeral.integerText value
  | .real value => value.text

/-- The escape of a character inside a string, or the character itself. -/
def escape (character : Char) : List Char :=
  if character = '"' then ['\\', '"']
  else if character = '\\' then ['\\', '\\']
  else if character = '\x08' then ['\\', 'b']
  else if character = '\t' then ['\\', 't']
  else if character = '\n' then ['\\', 'n']
  else if character = '\x0c' then ['\\', 'f']
  else if character = '\r' then ['\\', 'r']
  else if character.toNat < 0x20 then
    ['\\', 'u', '0', '0', Nat.digitChar (character.toNat / 16), Nat.digitChar (character.toNat % 16)]
  else [character]

/-- A string between quotes. -/
def quote (text : String) : List Char :=
  '"' :: (text.toList.flatMap escape ++ ['"'])

mutual

/-- The compact text of a value. -/
def Value.text : Value → List Char
  | .null => "null".toList
  | .bool true => "true".toList
  | .bool false => "false".toList
  | .number number => number.text
  | .string text => quote text
  | .array [] => "[]".toList
  | .array (item :: rest) => '[' :: (item.text ++ itemsText rest)
  | .object [] => ['{', '}']
  | .object ((key, value) :: rest) => '{' :: (quote key ++ ':' :: value.text ++ fieldsText rest)

/-- The items behind the first one, and the end of the array. -/
def itemsText : List Value → List Char
  | [] => [']']
  | item :: rest => ',' :: (item.text ++ itemsText rest)

/-- The fields behind the first one, and the end of the object. -/
def fieldsText : List (String × Value) → List Char
  | [] => ['}']
  | (key, value) :: rest => ',' :: (quote key ++ ':' :: value.text ++ fieldsText rest)

end

/-- The compact text of a value as a string. -/
def Value.compact (value : Value) : String :=
  String.ofList value.text

end ExchangeWallet.Json
