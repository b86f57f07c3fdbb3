import ExchangeWallet.Json.NumberReader
import ExchangeWallet.Json.StringReader
/-!
# Reading JSON values

Blanks may stand between tokens. Arrays and objects nest 127 deep at most. Of two
fields with the same key the later one counts. What follows a value may only be
blank.

The readers of items and fields are given the reader of the values inside, which
has one level of nesting less. They end because each item shortens the text.
-/
namespace ExchangeWallet.Json

/-- How deep arrays and objects may nest. -/
def maxDepth : Nat :=
  127

/-- A reader of a value that stands next, behind blanks. -/
abbrev ValueReader :=
  (text : List Char) → Except Stop (Parsed Value text.length)

/-- Reads what follows an item: the end of the array, or a comma and more items. -/
def readMoreItems (readItem : ValueReader) (text : List Char) :
    Except Stop (Parsed (List Value) text.length) :=
  match next : skipBlanks text with
  | [] => .error (Stop.upon .endInArray [])
  | character :: rest =>
    if character = ']' then .ok ⟨[], rest, length_lt_of_skipBlanks_eq next⟩
    else if character = ',' then
      match skipBlanks rest with
      | [] => .error (Stop.upon .endInValue [])
      | ']' :: others => .error (Stop.upon .trailingComma (']' :: others))
      | _ => do
        let item ← readItem rest
        let others ← readMoreItems readItem item.rest
        return (others.as (item.value :: others.value)).widen <|
          Nat.le_of_lt (Nat.lt_trans item.shorter (length_lt_of_skipBlanks_eq next))
    else .error (Stop.upon .expectedItemSeparator (character :: rest))
termination_by text.length
decreasing_by exact Nat.lt_trans item.shorter (length_lt_of_skipBlanks_eq next)

/-- Reads the items of an array, whose opening bracket has been passed. -/
def readItems (readItem : ValueReader) (text : List Char) :
    Except Stop (Parsed (List Value) text.length) :=
  match next : skipBlanks text with
  | [] => .error (Stop.upon .endInArray [])
  | ']' :: rest => .ok ⟨[], rest, length_lt_of_skipBlanks_eq next⟩
  | _ => do
    let item ← readItem text
    let others ← readMoreItems readItem item.rest
    return (others.as (item.value :: others.value)).widen (Nat.le_of_lt item.shorter)

/-- Reads a field from the opening quote of its key on, which blanks may precede. -/
def readField (readItem : ValueReader) (text : List Char) :
    Except Stop (Parsed (String × Value) text.length) :=
  match start : skipBlanks text with
  | '"' :: body => do
    let key ← readString body
    match colon : skipBlanks key.rest with
    | [] => .error (Stop.upon .endInObject [])
    | ':' :: rest => do
      let value ← readItem rest
      return (value.as (String.ofList key.value, value.value)).widen <| by
        have := length_lt_of_skipBlanks_eq start
        have := length_lt_of_skipBlanks_eq colon
        have := key.shorter
        omega
    | rest => .error (Stop.upon .expectedColon rest)
  | rest => .error (Stop.upon .keyNotString rest)

/-- Reads what follows a field: the end of the object, or a comma and more fields. -/
def readMoreFields (readItem : ValueReader) (text : List Char) :
    Except Stop (Parsed (List (String × Value)) text.length) :=
  match next : skipBlanks text with
  | [] => .error (Stop.upon .endInObject [])
  | character :: rest =>
    if character = '}' then .ok ⟨[], rest, length_lt_of_skipBlanks_eq next⟩
    else if character = ',' then
      match skipBlanks rest with
      | [] => .error (Stop.upon .endInValue [])
      | '}' :: others => .error (Stop.upon .trailingComma ('}' :: others))
      | _ => do
        let field ← readField readItem rest
        let others ← readMoreFields readItem field.rest
        return (others.as (field.value :: others.value)).widen <|
          Nat.le_of_lt (Nat.lt_trans field.shorter (length_lt_of_skipBlanks_eq next))
    else .error (Stop.upon .expectedFieldSeparator (character :: rest))
termination_by text.length
decreasing_by exact Nat.lt_trans field.shorter (length_lt_of_skipBlanks_eq next)

/-- Reads the fields of an object, whose opening brace has been passed. -/
def readFields (readItem : ValueReader) (text : List Char) :
    Except Stop (Parsed (List (String × Value)) text.length) :=
  match next : skipBlanks text with
  | [] => .error (Stop.upon .endInObject [])
  | '}' :: rest => .ok ⟨[], rest, length_lt_of_skipBlanks_eq next⟩
  | _ => do
    let field ← readField readItem text
    let others ← readMoreFields readItem field.rest
    return (others.as (field.value :: others.value)).widen (Nat.le_of_lt field.shorter)

/-- Reads a value that is neither an array nor an object, from its first character. -/
def readScalar (character : Char) (rest : List Char) :
    Except Stop (Parsed Value (rest.length + 1)) :=
  if character = 'n' then
    (readWord "ull".toList rest).map fun parsed => parsed.as .null
  else if character = 't' then
    (readWord "rue".toList rest).map fun parsed => parsed.as (.bool true)
  else if character = 'f' then
    (readWord "alse".toList rest).map fun parsed => parsed.as (.bool false)
  else if character = '"' then
    (readString rest).map fun parsed =>
      (parsed.as (.string (String.ofList parsed.value))).widen (Nat.le_succ _)
  else if character = '-' then
    (readNumber true rest).map fun parsed =>
      (parsed.as (.number parsed.value)).widen (Nat.le_succ _)
  else if character.isDigit then
    (readNumber false (character :: rest)).map fun parsed => parsed.as (.number parsed.value)
  else .error (Stop.upon .expectedValue (character :: rest))

/-- Reads a value that stands next, behind blanks, with the given depth left for
nesting. -/
def readValue (depth : Nat) (text : List Char) : Except Stop (Parsed Value text.length) :=
  match next : skipBlanks text with
  | [] => .error (Stop.upon .endInValue [])
  | character :: rest =>
    if character = '[' then
      match depth with
      | 0 => .error (Stop.upon .nestedTooDeep (character :: rest))
      | depth + 1 =>
        (readItems (readValue depth) rest).map fun parsed =>
          (parsed.as (.array parsed.value)).widen (Nat.le_of_lt (length_lt_of_skipBlanks_eq next))
    else if character = '{' then
      match depth with
      | 0 => .error (Stop.upon .nestedTooDeep (character :: rest))
      | depth + 1 =>
        (readFields (readValue depth) rest).map fun parsed =>
          (parsed.as (.object (Fields.ofList parsed.value))).widen
            (Nat.le_of_lt (length_lt_of_skipBlanks_eq next))
    else
      (readScalar character rest).map fun parsed =>
        parsed.widen (length_lt_of_skipBlanks_eq next)
termination_by structural depth

/-- Reads a text that holds one value and blanks. -/
def readDocument (text : List Char) : Except Stop Value := do
  let parsed ← readValue maxDepth text
  match skipBlanks parsed.rest with
  | [] => return parsed.value
  | rest => .error (Stop.upon .trailingCharacters rest)

/-- The value that a text denotes, or why and where it does not. -/
def read (text : String) : Except Fault Value :=
  (readDocument text.toList).mapError fun stop => stop.fault text.toList

end ExchangeWallet.Json
