/-!
# SHA-384

The digest of a message is computed over blocks of 128 bytes. The message is
padded by one set bit, zeros and its length in bits, so that every message fills
whole blocks. A block is taken in as sixteen words of 64 bits; each of the eighty
rounds uses the first word of a window of sixteen and extends the window by the
word that the schedule puts next. Of the eight words of the final state, the first
six are the digest.
-/
namespace ExchangeWallet.Digest

/-- The parts of a list, `extra + 1` items each and the last one maybe shorter. -/
def chunks {α : Type} (extra : Nat) : List α → List (List α)
  | [] => []
  | item :: rest => (item :: rest.take extra) :: chunks extra (rest.drop extra)
termination_by items => items.length
decreasing_by simp only [List.length_drop, List.length_cons]; omega

/-- The word that bytes spell, the first byte being the highest. -/
def wordOfBytes (bytes : List UInt8) : UInt64 :=
  bytes.foldl (fun word byte => word <<< 8 ||| byte.toUInt64) 0

/-- The bytes of a word, the highest first. -/
def bytesOfWord (word : UInt64) : List UInt8 :=
  [56, 48, 40, 32, 24, 16, 8, 0].map fun (shift : UInt64) => (word >>> shift).toUInt8

namespace Sha384

/-- The number of bytes in a block. -/
def blockSize : Nat :=
  128

/-- A word turned right by a number of places below 64 and above zero. -/
def turn (word : UInt64) (places : UInt64) : UInt64 :=
  word >>> places ||| word <<< (64 - places)

/-- The eight words that the rounds change. -/
structure State where
  a : UInt64
  b : UInt64
  c : UInt64
  d : UInt64
  e : UInt64
  f : UInt64
  g : UInt64
  h : UInt64
deriving DecidableEq

/-- The state before the first block. -/
def initial : State :=
  ⟨0xcbbb9d5dc1059ed8, 0x629a292a367cd507, 0x9159015a3070dd17, 0x152fecd8f70e5939,
    0x67332667ffc00b31, 0x8eb44a8768581511, 0xdb0c2e0d64f98fa7, 0x47b5481dbefa4fa4⟩

/-- The constants of the eighty rounds. -/
def constants : List UInt64 :=
  [0x428a2f98d728ae22, 0x7137449123ef65cd, 0xb5c0fbcfec4d3b2f, 0xe9b5dba58189dbbc,
    0x3956c25bf348b538, 0x59f111f1b605d019, 0x923f82a4af194f9b, 0xab1c5ed5da6d8118,
    0xd807aa98a3030242, 0x12835b0145706fbe, 0x243185be4ee4b28c, 0x550c7dc3d5ffb4e2,
    0x72be5d74f27b896f, 0x80deb1fe3b1696b1, 0x9bdc06a725c71235, 0xc19bf174cf692694,
    0xe49b69c19ef14ad2, 0xefbe4786384f25e3, 0x0fc19dc68b8cd5b5, 0x240ca1cc77ac9c65,
    0x2de92c6f592b0275, 0x4a7484aa6ea6e483, 0x5cb0a9dcbd41fbd4, 0x76f988da831153b5,
    0x983e5152ee66dfab, 0xa831c66d2db43210, 0xb00327c898fb213f, 0xbf597fc7beef0ee4,
    0xc6e00bf33da88fc2, 0xd5a79147930aa725, 0x06ca6351e003826f, 0x142929670a0e6e70,
    0x27b70a8546d22ffc, 0x2e1b21385c26c926, 0x4d2c6dfc5ac42aed, 0x53380d139d95b3df,
    0x650a73548baf63de, 0x766a0abb3c77b2a8, 0x81c2c92e47edaee6, 0x92722c851482353b,
    0xa2bfe8a14cf10364, 0xa81a664bbc423001, 0xc24b8b70d0f89791, 0xc76c51a30654be30,
    0xd192e819d6ef5218, 0xd69906245565a910, 0xf40e35855771202a, 0x106aa07032bbd1b8,
    0x19a4c116b8d2d0c8, 0x1e376c085141ab53, 0x2748774cdf8eeb99, 0x34b0bcb5e19b48a8,
    0x391c0cb3c5c95a63, 0x4ed8aa4ae3418acb, 0x5b9cca4f7763e373, 0x682e6ff3d6b2b8a3,
    0x748f82ee5defb2fc, 0x78a5636f43172f60, 0x84c87814a1f0ab72, 0x8cc702081a6439ec,
    0x90befffa23631e28, 0xa4506cebde82bde9, 0xbef9a3f7b2c67915, 0xc67178f2e372532b,
    0xca273eceea26619c, 0xd186b8c721c0c207, 0xeada7dd6cde0eb1e, 0xf57d4f7fee6ed178,
    0x06f067aa72176fba, 0x0a637dc5a2c898a6, 0x113f9804bef90dae, 0x1b710b35131c471b,
    0x28db77f523047d84, 0x32caab7b40c72493, 0x3c9ebe0a15c9bebc, 0x431d67c49c100d4c,
    0x4cc5d4becb3e42b6, 0x597f299cfc657e2a, 0x5fcb6fab3ad6faec, 0x6c44198c4a475817]

/-- One round, with the constant of the round and the word of the schedule. -/
def State.round (state : State) (constant word : UInt64) : State :=
  let choice := (state.e &&& state.f) ^^^ (~~~state.e &&& state.g)
  let majority := (state.a &&& state.b) ^^^ (state.a &&& state.c) ^^^ (state.b &&& state.c)
  let mixedE := turn state.e 14 ^^^ turn state.e 18 ^^^ turn state.e 41
  let mixedA := turn state.a 28 ^^^ turn state.a 34 ^^^ turn state.a 39
  let first := state.h + mixedE + choice + constant + word
  ⟨first + mixedA + majority, state.a, state.b, state.c, state.d + first, state.e, state.f, state.g⟩

/-- The word that follows a window of sixteen in the schedule. -/
def nextWord (window : List UInt64) : UInt64 :=
  let near := window.getD 1 0
  let far := window.getD 14 0
  let mixedNear := turn near 1 ^^^ turn near 8 ^^^ near >>> 7
  let mixedFar := turn far 19 ^^^ turn far 61 ^^^ far >>> 6
  window.getD 0 0 + mixedNear + window.getD 9 0 + mixedFar

/-- One round, and the window of the schedule moved on by a word. -/
def step (current : State × List UInt64) (constant : UInt64) : State × List UInt64 :=
  let (state, window) := current
  (state.round constant (window.getD 0 0), window.drop 1 ++ [nextWord window])

/-- The word by word sum of two states. -/
def State.add (left right : State) : State :=
  ⟨left.a + right.a, left.b + right.b, left.c + right.c, left.d + right.d,
    left.e + right.e, left.f + right.f, left.g + right.g, left.h + right.h⟩

/-- Takes in one block. -/
def absorb (state : State) (block : List UInt64) : State :=
  state.add (constants.foldl step (state, block)).1

/-- The message with its padding, a whole number of blocks. -/
def pad (message : List UInt8) : List UInt8 :=
  let used := (message.length + 17) % blockSize
  let zeros := (blockSize - used) % blockSize
  message ++ 0x80 :: List.replicate (zeros + 8) 0 ++ bytesOfWord (UInt64.ofNat (8 * message.length))

/-- The padded message as blocks of words. -/
def blocks (message : List UInt8) : List (List UInt64) :=
  chunks 15 ((chunks 7 (pad message)).map wordOfBytes)

end Sha384

/-- The digest of a message, 48 bytes. -/
def sha384 (message : List UInt8) : List UInt8 :=
  let state := (Sha384.blocks message).foldl Sha384.absorb Sha384.initial
  [state.a, state.b, state.c, state.d, state.e, state.f].flatMap bytesOfWord

end ExchangeWallet.Digest
