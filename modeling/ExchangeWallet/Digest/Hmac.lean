import ExchangeWallet.Digest.Sha384
import ExchangeWallet.Text.Utf8
/-!
# Keyed digests

The keyed digest of a message hashes it twice, each time behind one block made
from the key: the inner and the outer block differ by constant bytes. A key longer
than a block is replaced by its own digest, a shorter one is filled with zeros.
-/
namespace ExchangeWallet.Digest

/-- The key as one block. -/
def keyBlock (key : List UInt8) : List UInt8 :=
  let short := if key.length > Sha384.blockSize then sha384 key else key
  short ++ List.replicate (Sha384.blockSize - short.length) 0

/-- The keyed digest of a message, 48 bytes. -/
def hmacSha384 (key message : List UInt8) : List UInt8 :=
  let inner := sha384 ((keyBlock key).map (· ^^^ 0x36) ++ message)
  sha384 ((keyBlock key).map (· ^^^ 0x5c) ++ inner)

/-- The two lowercase hexadecimal digits of a byte. -/
def hexByte (byte : UInt8) : List Char :=
  [Nat.digitChar (byte.toNat / 16), Nat.digitChar (byte.toNat % 16)]

/-- Bytes in lowercase hexadecimal. -/
def hex (bytes : List UInt8) : String :=
  String.ofList (bytes.flatMap hexByte)

-- Two of the published test vectors. The key of the second is longer than a block.
example : hex (hmacSha384 (List.replicate 20 0x0b) (Text.bytes "Hi There")) =
    "afd03944d84895626b0825f4ab46907f15f9dadbe4101ec6" ++
      "82aa034c7cebc59cfaea9ea9076ede7f4af152e8b2fa9cb6" := by
  decide +kernel

example : hex (hmacSha384 (List.replicate 131 0xaa)
      (Text.bytes "Test Using Larger Than Block-Size Key - Hash Key First")) =
    "4ece084485813e9088d2c63a041bc5b44f9ef1012a2b588f" ++
      "3cd11f05033ac4c60c2ef6ab4030fe8296248df163f44952" := by
  decide +kernel

end ExchangeWallet.Digest
