/-!
# Texts and bytes

Bytes that spell a text in UTF-8 are read strictly or leniently. Strict reading
refuses bytes that spell none. Any bytes can be cut into pieces, which are characters
and stray bytes between them; lenient reading puts the replacement character for
every stray piece.
-/
namespace ExchangeWallet.Text

/-- The bytes of a text. -/
def bytes (text : String) : List UInt8 :=
  text.toUTF8.data.toList

/-- The text that bytes spell, if they spell one. -/
def ofBytes? (bytes : ByteArray) : Option String :=
  String.fromUTF8? bytes

/-- The beginning of a character of several bytes. -/
structure Begun where
  /-- The bytes so far. -/
  bytes : List UInt8
  /-- The bits of the code point so far. -/
  bits : Nat
  /-- How many bytes are missing. -/
  missing : Nat
  /-- The least byte that may come next. -/
  least : UInt8
  /-- The greatest byte that may come next. -/
  greatest : UInt8

namespace Begun

/-- The beginning that a first byte makes. The bounds of the second byte rule out
surrogates, code points beyond the last, and spellings that are too long. -/
def ofByte? (byte : UInt8) : Option Begun :=
  if 0xC2 ≤ byte ∧ byte ≤ 0xDF then some ⟨[byte], byte.toNat - 0xC0, 1, 0x80, 0xBF⟩
  else if byte = 0xE0 then some ⟨[byte], 0, 2, 0xA0, 0xBF⟩
  else if byte = 0xED then some ⟨[byte], 0xD, 2, 0x80, 0x9F⟩
  else if 0xE1 ≤ byte ∧ byte ≤ 0xEF then some ⟨[byte], byte.toNat - 0xE0, 2, 0x80, 0xBF⟩
  else if byte = 0xF0 then some ⟨[byte], 0, 3, 0x90, 0xBF⟩
  else if 0xF1 ≤ byte ∧ byte ≤ 0xF3 then some ⟨[byte], byte.toNat - 0xF0, 3, 0x80, 0xBF⟩
  else if byte = 0xF4 then some ⟨[byte], 4, 3, 0x80, 0x8F⟩
  else none

/-- Whether a byte may come next. -/
def admits (begun : Begun) (byte : UInt8) : Bool :=
  begun.least ≤ byte && byte ≤ begun.greatest

/-- The beginning with one byte more. -/
def push (begun : Begun) (byte : UInt8) : Begun :=
  ⟨begun.bytes ++ [byte], begun.bits * 64 + (byte.toNat - 0x80), begun.missing - 1, 0x80, 0xBF⟩

end Begun

/-- A character that bytes spell, or bytes that spell nothing: a byte that can start no
character, or the longest beginning of a character that is broken off. -/
inductive Piece where
  | character (character : Char)
  | stray (bytes : List UInt8)

/-- Cuts bytes into pieces, behind the given beginning of a character. -/
def readPieces (begun : Option Begun) (bytes : List UInt8) : List Piece :=
  match begun, bytes with
  | none, [] => []
  | some begun, [] => [.stray begun.bytes]
  | none, byte :: rest => start byte rest
  | some begun, byte :: rest =>
    if begun.admits byte then
      let next := begun.push byte
      if next.missing = 0 then .character (Char.ofNat next.bits) :: readPieces none rest
      else readPieces (some next) rest
    else .stray begun.bytes :: start byte rest
where
  /-- Reads a byte that starts a piece, and those behind it. -/
  start (byte : UInt8) (rest : List UInt8) : List Piece :=
    if byte < 0x80 then .character (Char.ofNat byte.toNat) :: readPieces none rest
    else match Begun.ofByte? byte with
      | some begun => readPieces (some begun) rest
      | none => .stray [byte] :: readPieces none rest

/-- The pieces of bytes. -/
def pieces (bytes : List UInt8) : List Piece :=
  readPieces none bytes

/-- The character put for bytes that spell nothing. -/
def replacement : Char :=
  '\uFFFD'

/-- What lenient reading puts for a piece. -/
def Piece.lenient : Piece → Char
  | character shown => shown
  | stray _ => replacement

/-- The text that bytes spell, with what spells nothing replaced. -/
def ofBytesLenient (bytes : List UInt8) : String :=
  String.ofList ((pieces bytes).map Piece.lenient)

end ExchangeWallet.Text
