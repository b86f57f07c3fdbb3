import ExchangeWallet.Json.Parsed
/-!
# Reading JSON strings

A string ends at the next quote that is not escaped. An escape is a backslash and
one of the short names, or `u` and four hexadecimal digits. A character outside
the basic plane is written as two such escapes, a leading and a trailing half;
neither half may stand without the other. Control characters have to be escaped.
-/
namespace ExchangeWallet.Json

/-- The value of a hexadecimal digit of either case. -/
def hexDigit? (character : Char) : Option Nat :=
  if '0' ≤ character ∧ character ≤ '9' then some (character.toNat - '0'.toNat)
  else if 'a' ≤ character ∧ character ≤ 'f' then some (character.toNat - 'a'.toNat + 10)
  else if 'A' ≤ character ∧ character ≤ 'F' then some (character.toNat - 'A'.toNat + 10)
  else none

/-- The value of four hexadecimal digits, and the text behind them. -/
def hexQuad? : List Char → Option (Nat × List Char)
  | first :: second :: third :: fourth :: rest => do
    let high := (← hexDigit? first) * 16 + (← hexDigit? second)
    let low := (← hexDigit? third) * 16 + (← hexDigit? fourth)
    return (high * 256 + low, rest)
  | _ => none

/-- Four digits are passed over. -/
theorem length_of_hexQuad? {text rest : List Char} {unit : Nat}
    (read : hexQuad? text = some (unit, rest)) : rest.length < text.length := by
  unfold hexQuad? at read
  split at read
  · simp only [Option.bind_eq_bind, Option.bind_eq_some_iff, Option.pure_def,
      Option.some.injEq, Prod.mk.injEq] at read
    obtain ⟨_, _, _, _, _, _, _, _, _, rfl⟩ := read
    simp
    omega
  · simp at read

/-- Reads four hexadecimal digits. Where they are not, four bytes have been looked
at, or the text has ended. -/
def readHexQuad (text : List Char) : Except Stop (Parsed Nat text.length) :=
  match read : hexQuad? text with
  | some (unit, rest) => .ok ⟨unit, rest, length_of_hexQuad? read⟩
  | none =>
    if Stop.byteCount (text.take 4) < 4 then .error (Stop.upon .endInString [])
    else .error ⟨.invalidEscape, text, 4⟩

/-- The stop where the second half of a pair should begin. -/
def unfinishedPair (text : List Char) : Stop :=
  Stop.upon (if text = [] then .endInString else .unfinishedSurrogatePair) text

/-- Reads the second half of a pair, from its backslash on. -/
def readTrailingHalf (leading : Nat) (text : List Char) :
    Except Stop (Parsed Char text.length) :=
  match text with
  | '\\' :: 'u' :: rest => do
    let trailing ← readHexQuad rest
    if 0xDC00 ≤ trailing.value ∧ trailing.value ≤ 0xDFFF then
      let point := 0x10000 + (leading - 0xD800) * 0x400 + (trailing.value - 0xDC00)
      return (trailing.as (Char.ofNat point)).widen (by simp; omega)
    else .error (Stop.before .unpairedSurrogate trailing.rest)
  | '\\' :: rest => .error (unfinishedPair rest)
  | text => .error (unfinishedPair text)

/-- Reads the digits of an escaped character, and its second half if it has one. -/
def readCodePoint (text : List Char) : Except Stop (Parsed Char text.length) := do
  let unit ← readHexQuad text
  if 0xDC00 ≤ unit.value ∧ unit.value ≤ 0xDFFF then
    .error (Stop.before .unpairedSurrogate unit.rest)
  else if 0xD800 ≤ unit.value ∧ unit.value ≤ 0xDBFF then
    let character ← readTrailingHalf unit.value unit.rest
    return character.widen (Nat.le_of_lt unit.shorter)
  else return unit.as (Char.ofNat unit.value)

/-- The character that a short escape names. -/
def shortEscape? (name : Char) : Option Char :=
  if name = '"' then some '"'
  else if name = '\\' then some '\\'
  else if name = '/' then some '/'
  else if name = 'b' then some '\x08'
  else if name = 'f' then some '\x0c'
  else if name = 'n' then some '\n'
  else if name = 'r' then some '\r'
  else if name = 't' then some '\t'
  else none

/-- Reads an escape, whose backslash has been passed. -/
def readEscape (text : List Char) : Except Stop (Parsed Char text.length) :=
  match text with
  | [] => .error (Stop.upon .endInString [])
  | name :: rest =>
    if name = 'u' then (readCodePoint rest).map fun parsed => parsed.widen (by simp)
    else match shortEscape? name with
      | some character => .ok ⟨character, rest, by simp⟩
      | none => .error (Stop.upon .invalidEscape (name :: rest))

/-- Reads a string up to its closing quote. The opening one has been passed. -/
def readString (text : List Char) : Except Stop (Parsed (List Char) text.length) :=
  match text with
  | [] => .error (Stop.upon .endInString [])
  | character :: rest =>
    if character = '"' then .ok ⟨[], rest, by simp⟩
    else if character = '\\' then do
      let escaped ← readEscape rest
      let others ← readString escaped.rest
      return ⟨escaped.value :: others.value, others.rest, by
        have := escaped.shorter
        have := others.shorter
        simp
        omega⟩
    else if character.toNat < 0x20 then .error (Stop.upon .controlCharacter (character :: rest))
    else do
      let others ← readString rest
      return (others.as (character :: others.value)).widen (by simp)
termination_by text.length
decreasing_by
  · have := escaped.shorter
    simp
    omega
  · simp

end ExchangeWallet.Json
