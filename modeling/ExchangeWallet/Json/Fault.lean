/-!
# Faults in JSON text

A reader that stops says why, what text was left, and how many bytes of that
text it had looked at. A fault for the caller has the cause and the place, a line
counted from one and a column counted in bytes. The column is zero directly
behind a line break.
-/
namespace ExchangeWallet.Json

/-- Why a text is not a JSON value. -/
inductive Cause where
  | endInValue
  | endInArray
  | endInObject
  | endInString
  | expectedColon
  | expectedItemSeparator
  | expectedFieldSeparator
  | expectedWord
  | expectedValue
  | invalidEscape
  | invalidNumber
  | numberOutOfRange
  | unpairedSurrogate
  | unfinishedSurrogatePair
  | controlCharacter
  | keyNotString
  | trailingComma
  | trailingCharacters
  | nestedTooDeep
deriving DecidableEq

/-- The wording of a cause. -/
def Cause.message : Cause → String
  | endInValue => "EOF while parsing a value"
  | endInArray => "EOF while parsing a list"
  | endInObject => "EOF while parsing an object"
  | endInString => "EOF while parsing a string"
  | expectedColon => "expected `:`"
  | expectedItemSeparator => "expected `,` or `]`"
  | expectedFieldSeparator => "expected `,` or `\x7d`"
  | expectedWord => "expected ident"
  | expectedValue => "expected value"
  | invalidEscape => "invalid escape"
  | invalidNumber => "invalid number"
  | numberOutOfRange => "number out of range"
  | unpairedSurrogate => "lone leading surrogate in hex escape"
  | unfinishedSurrogatePair => "unexpected end of hex escape"
  | controlCharacter => "control character (\\u0000-\\u001F) found while parsing a string"
  | keyNotString => "key must be a string"
  | trailingComma => "trailing comma"
  | trailingCharacters => "trailing characters"
  | nestedTooDeep => "recursion limit exceeded"

/-- A cause and the place where it was found. -/
structure Fault where
  cause : Cause
  line : Nat
  column : Nat
deriving DecidableEq

/-- The wording of a fault. -/
def Fault.message (fault : Fault) : String :=
  s!"{fault.cause.message} at line {fault.line} column {fault.column}"

/-- Where a reader stopped: the text left, and how many bytes of it had been
looked at. -/
structure Stop where
  cause : Cause
  rest : List Char
  ahead : Nat
deriving DecidableEq

namespace Stop

/-- A stop at the next character, which has been looked at. -/
def upon (cause : Cause) (rest : List Char) : Stop :=
  ⟨cause, rest, 1⟩

/-- A stop in front of the next character. -/
def before (cause : Cause) (rest : List Char) : Stop :=
  ⟨cause, rest, 0⟩

/-- How many bytes a text has. -/
def byteCount (text : List Char) : Nat :=
  text.foldl (fun count character => count + character.utf8Size) 0

/-- The line and column of the byte that `count` bytes lead up to. -/
def place (line column : Nat) : (count : Nat) → (text : List Char) → Nat × Nat
  | 0, _ => (line, column)
  | _ + 1, [] => (line, column)
  | count + 1, character :: rest =>
    if character = '\n' then place (line + 1) 0 count rest
    else if character.utf8Size ≤ count + 1 then
      place line (column + character.utf8Size) (count + 1 - character.utf8Size) rest
    else (line, column + (count + 1))

/-- The fault that a stop means within the whole text. -/
def fault (stop : Stop) (text : List Char) : Fault :=
  let (line, column) := place 1 0 (byteCount text - byteCount stop.rest + stop.ahead) text
  ⟨stop.cause, line, column⟩

end Stop

end ExchangeWallet.Json
