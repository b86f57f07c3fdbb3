import ExchangeWallet.Text.Extending
import ExchangeWallet.Text.Ignorable
import ExchangeWallet.Text.Printable
import ExchangeWallet.Text.Utf8
/-!
# Quoted text for inspection

Texts in diagnostics stand between quotes, with everything in them made visible.
Quotes, backslashes and the common control characters have short escapes. What is
not printable, leaves no mark, or would attach to the character before it, is
written as `\u` and its code point in braces. All else stands for itself,
apostrophes included, so that a quoted text can be told apart from every other.

Bytes that need not be a text are quoted piece by piece: characters like those of a
text, and each stray byte as `\x` and its two digits.
-/
namespace ExchangeWallet.Text

/-- A code point in hexadecimal between braces. -/
def bracedCodePoint (character : Char) : List Char :=
  '\\' :: 'u' :: '{' :: (Nat.toDigits 16 character.toNat ++ ['}'])

/-- Whether only its code point shows that a character is there. -/
def isHidden (character : Char) : Bool :=
  isExtending character || isIgnorable character || !isPrintable character

/-- The visible form of a character between quotes. -/
def visible (character : Char) : List Char :=
  if character = '\x00' then ['\\', '0']
  else if character = '\t' then ['\\', 't']
  else if character = '\r' then ['\\', 'r']
  else if character = '\n' then ['\\', 'n']
  else if character = '"' then ['\\', '"']
  else if character = '\\' then ['\\', '\\']
  else if ' ' ≤ character ∧ character ≤ '~' then [character]
  else if isHidden character then bracedCodePoint character
  else [character]

/-- A text between quotes. -/
def quoted (text : String) : List Char :=
  '"' :: (text.toList.flatMap visible ++ ['"'])

/-- A text between quotes, as a string. -/
def inspect (text : String) : String :=
  String.ofList (quoted text)

/-- The visible form of a stray byte. -/
def visibleByte (byte : UInt8) : List Char :=
  '\\' :: 'x' :: [byte / 16, byte % 16].map fun half => (Nat.digitChar half.toNat).toUpper

/-- The visible form of a piece between quotes. -/
def visiblePiece : Piece → List Char
  | .character character => visible character
  | .stray bytes => bytes.flatMap visibleByte

/-- Bytes between quotes, as a string. -/
def inspectBytes (bytes : List UInt8) : String :=
  String.ofList ('"' :: ((pieces bytes).flatMap visiblePiece ++ ['"']))

/-- An optional text between quotes, as a string. -/
def inspectOption (text : Option String) : String :=
  match text with
  | some text => s!"Some({inspect text})"
  | none => "None"

end ExchangeWallet.Text
