import ExchangeWallet.Json.Printer
import ExchangeWallet.Text.Quoted
/-!
# Values written for inspection

Diagnostics about a row show each value with its kind, so that a number and a
numeral in a string cannot be mistaken for each other. Lists of values stand in
brackets and fields in braces, separated by a comma and a space.
-/
namespace ExchangeWallet.Json

mutual

/-- A value with its kind. -/
def Value.inspection : Value → List Char
  | .null => "Null".toList
  | .bool true => "Bool(true)".toList
  | .bool false => "Bool(false)".toList
  | .number number => "Number(".toList ++ number.text ++ [')']
  | .string text => "String(".toList ++ Text.quoted text ++ [')']
  | .array [] => "Array []".toList
  | .array (item :: rest) => "Array [".toList ++ item.inspection ++ itemsInspection rest
  | .object [] => "Object ".toList ++ ['{', '}']
  | .object ((key, value) :: rest) =>
    "Object ".toList ++ '{' :: (Text.quoted key ++ ": ".toList ++ value.inspection) ++
      fieldsInspection rest

/-- The items behind the first one, and the end of the list. -/
def itemsInspection : List Value → List Char
  | [] => [']']
  | item :: rest => ',' :: ' ' :: (item.inspection ++ itemsInspection rest)

/-- The fields behind the first one, and the end of the object. -/
def fieldsInspection : List (String × Value) → List Char
  | [] => ['}']
  | (key, value) :: rest =>
    ',' :: ' ' :: (Text.quoted key ++ ": ".toList ++ value.inspection ++ fieldsInspection rest)

end

/-- A row of values, each with its kind. -/
def inspectRow : List Value → String
  | [] => "[]"
  | item :: rest => String.ofList ('[' :: (item.inspection ++ itemsInspection rest))

end ExchangeWallet.Json
