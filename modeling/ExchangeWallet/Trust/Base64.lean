/-!
# Base64

Three bytes are spelled by four symbols of six bits each. Spaces, tabs, line ends and
page breaks do not count. Padding may only fill the last group of symbols and may
also be missing there.

Symbols are judged in blocks of eight. A padded block may not be followed by more
symbols, and the last block is cut into its groups at the end, so of several
faults the one that is found first on this way decides.
-/
namespace ExchangeWallet.Trust.Base64

/-- Why a text is not base64. -/
inductive Fault where
  | invalidCharacter (byte : UInt8)
  | prematurePadding
  | invalidTrailingPadding
deriving DecidableEq

/-- The wording of a fault. -/
def Fault.message : Fault → String
  | invalidCharacter byte => s!"InvalidCharacter({byte.toNat})"
  | prematurePadding => "PrematurePadding"
  | invalidTrailingPadding => "InvalidTrailingPadding"

/-- What a byte of the text is. -/
inductive Symbol where
  | blank
  | padding
  | digit (value : Nat)
  | invalid
deriving DecidableEq

/-- Whether a byte is a blank: the space, or one of the five controls from the tab to
the carriage return. -/
def isBlank (byte : UInt8) : Bool :=
  byte = 0x20 || (0x09 ≤ byte && byte ≤ 0x0d)

/-- The meaning of a byte. -/
def Symbol.ofByte (byte : UInt8) : Symbol :=
  let character := Char.ofNat byte.toNat
  if isBlank byte then blank
  else if character = '=' then padding
  else if 'A' ≤ character ∧ character ≤ 'Z' then digit (character.toNat - 'A'.toNat)
  else if 'a' ≤ character ∧ character ≤ 'z' then digit (character.toNat - 'a'.toNat + 26)
  else if '0' ≤ character ∧ character ≤ '9' then digit (character.toNat - '0'.toNat + 52)
  else if character = '+' then digit 62
  else if character = '/' then digit 63
  else invalid

/-- The bytes that up to four digits spell, one fewer than there are digits. -/
def groupBytes (digits : List Nat) : List UInt8 :=
  let filled := digits ++ List.replicate (4 - digits.length) 0
  let number := filled.foldl (fun number digit => number * 64 + digit) 0
  ([number / 65536, number / 256, number].map UInt8.ofNat).take (digits.length - 1)

/-- The bytes of the last group, in which `none` is padding. -/
def lastGroup : List (Option Nat) → Except Fault (List UInt8)
  | [] => .ok []
  | [some a, some b, some c, some d] => .ok (groupBytes [a, b, c, d])
  | [some a, some b, some c, none] => .ok (groupBytes [a, b, c])
  | [some a, some b, some c] => .ok (groupBytes [a, b, c])
  | [some a, some b, none, none] => .ok (groupBytes [a, b])
  | [some a, some b] => .ok (groupBytes [a, b])
  | _ => .error .invalidTrailingPadding

/-- The bytes of one or two whole groups. Padding may not be among them. -/
def wholeGroups (block : List (Option Nat)) : Except Fault (List UInt8) :=
  match block.mapM id with
  | some digits => .ok (groupBytes (digits.take 4) ++ groupBytes (digits.drop 4))
  | none => .error .prematurePadding

/-- The number of symbols in a block. -/
def blockSize : Nat :=
  8

/-- The bytes of the last block, of at most eight symbols. -/
def lastBlock (block : List (Option Nat)) : Except Fault (List UInt8) :=
  if block.length > 4 then do
    let bytes ← wholeGroups (block.take 4)
    return bytes ++ (← lastGroup (block.drop 4))
  else lastGroup block

/-- A block with one symbol more. A full block gives its bytes first and leaves the
symbol to a new one. -/
def push (block : List (Option Nat)) (symbol : Option Nat) :
    Except Fault (List UInt8 × List (Option Nat)) :=
  if block.length < blockSize then .ok ([], block ++ [symbol])
  else (wholeGroups block).map fun bytes => (bytes, [symbol])

/-- The bytes that a text spells behind an unfinished block. -/
def decodeBehind (block : List (Option Nat)) : List UInt8 → Except Fault (List UInt8)
  | [] => lastBlock block
  | byte :: rest =>
    match Symbol.ofByte byte with
    | .blank => decodeBehind block rest
    | .invalid => .error (.invalidCharacter byte)
    | .padding => do
      let (bytes, block) ← push block none
      return bytes ++ (← decodeBehind block rest)
    | .digit value => do
      let (bytes, block) ← push block (some value)
      return bytes ++ (← decodeBehind block rest)

/-- The bytes that a text spells. -/
def decode (text : List UInt8) : Except Fault (List UInt8) :=
  decodeBehind [] text

end ExchangeWallet.Trust.Base64
