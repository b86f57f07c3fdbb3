/-!
# Nonces

Every signed request carries a nonce that is larger than all before it. A nonce is
the time in whole microseconds, or one more than the last nonce where the time has
not gone on that far. So nonces grow although the clock may stand still or go back.

Nonces are words of 64 bits, and one more than the largest word is zero. A time
before the epoch counts as zero.
-/
namespace ExchangeWallet.Signing

/-- A reading of the clock: seconds since the epoch, and nanoseconds on top. -/
structure Reading where
  seconds : Int
  nanoseconds : Nat
deriving DecidableEq

namespace Reading

/-- The whole microseconds since the epoch. -/
def microseconds (reading : Reading) : UInt64 :=
  if reading.seconds < 0 then 0
  else UInt64.ofNat (reading.seconds.toNat * 1000000 + reading.nanoseconds / 1000)

end Reading

/-- The readings that a clock will give. The last one is given again for ever. -/
structure Clock where
  next : Reading
  later : List Reading
deriving DecidableEq

namespace Clock

/-- The clock that stands at the epoch. -/
def epoch : Clock :=
  ⟨⟨0, 0⟩, []⟩

/-- The clock with the given readings. -/
def ofReadings : List Reading → Clock
  | [] => epoch
  | next :: later => ⟨next, later⟩

/-- Reads the clock. -/
def read (clock : Clock) : Reading × Clock :=
  match clock.later with
  | [] => (clock.next, clock)
  | next :: later => (clock.next, ⟨next, later⟩)

end Clock

/-- The nonce that follows the last one at a time. -/
def nonceAfter (last now : UInt64) : UInt64 :=
  max now (last + 1)

/-- What nonces are made from: a clock and the last nonce. -/
structure NonceSource where
  clock : Clock
  last : UInt64
deriving DecidableEq

namespace NonceSource

/-- Makes a nonce, for which the clock is read once. -/
def issue (source : NonceSource) : UInt64 × NonceSource :=
  let (reading, clock) := source.clock.read
  let nonce := nonceAfter source.last reading.microseconds
  (nonce, ⟨clock, nonce⟩)

end NonceSource

end ExchangeWallet.Signing
