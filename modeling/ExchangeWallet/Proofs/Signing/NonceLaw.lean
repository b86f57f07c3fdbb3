import Mathlib
import ExchangeWallet.Signing.Nonce
/-!
# The law of nonces

The nonces of a source have a closed form. Each reading of the clock and the last
nonce set a floor of their own, which rises by one with every nonce that is made after
it; a nonce is the highest of the floors there are at its time. The form does not ask
the clock to go forward.

The law is about words only as long as none of them overflows, so it asks for room: the
last nonce and the readings have to stay below a bound by as many as nonces are made.
-/
namespace ExchangeWallet.Signing

/-- The whole microseconds since the epoch, without a bound. There are none before it. -/
def Reading.elapsed (reading : Reading) : Nat :=
  if reading.seconds < 0 then 0
  else reading.seconds.toNat * 1000000 + reading.nanoseconds / 1000

/-- The time that a clock shows when it is read for the time after a number of others. -/
def Clock.nowAt (clock : Clock) : Nat → Nat
  | 0 => clock.read.1.elapsed
  | count + 1 => clock.read.2.nowAt count

namespace NonceSource

variable (source : NonceSource)

/-- The source that a number of nonces have been made from. -/
def after (source : NonceSource) : Nat → NonceSource
  | 0 => source
  | count + 1 => source.issue.2.after count

/-- The highest of the floors of the nonce that is made after a number of others. -/
def lawfulNonce (count : Nat) : Nat :=
  max (source.last.toNat + (count + 1))
    ((Finset.range (count + 1)).sup fun earlier => source.clock.nowAt earlier + (count - earlier))

/-- A number of nonces can be made without one of them reaching a bound. -/
def HasRoom (bound count : Nat) : Prop :=
  source.last.toNat + count < bound ∧ ∀ earlier < count, source.clock.nowAt earlier + count < bound

end NonceSource

/-- Elapsed time that fits a word is read as it is. -/
theorem Reading.toNat_microseconds {reading : Reading} (fits : reading.elapsed < 2 ^ 64) :
    reading.microseconds.toNat = reading.elapsed := by
  unfold microseconds
  unfold elapsed at fits ⊢
  split
  · rfl
  · next notBefore =>
    rw [if_neg notBefore] at fits
    rw [UInt64.toNat_ofNat', Nat.mod_eq_of_lt fits]

/-- Where one more than the last nonce fits a word, a nonce is the larger of it and
the time. -/
theorem toNat_nonceAfter {last now : UInt64} (fits : last.toNat + 1 < 2 ^ 64) :
    (nonceAfter last now).toNat = max now.toNat (last.toNat + 1) := by
  have next : (last + 1).toNat = last.toNat + 1 := by
    rw [UInt64.toNat_add, UInt64.toNat_one, Nat.mod_eq_of_lt fits]
  change (if now ≤ last + 1 then last + 1 else now).toNat = _
  rw [Nat.max_def, ← next]
  simp only [UInt64.le_iff_toNat_le]
  split <;> rfl

/-- A nonce is not below the time it was made at. -/
theorem le_nonceAfter (last now : UInt64) : now ≤ nonceAfter last now := by
  change now ≤ if now ≤ last + 1 then last + 1 else now
  split
  · next later => exact later
  · exact UInt64.le_refl now

namespace NonceSource

variable {source : NonceSource} {bound count : Nat}

/-- With room, the next nonce is the larger of the time and one more than the last. -/
theorem toNat_issue (room : source.HasRoom (2 ^ 64) (count + 1)) :
    source.issue.1.toNat = max (source.clock.nowAt 0) (source.last.toNat + 1) := by
  have now := room.2 0 (Nat.succ_pos count)
  have last := room.1
  change (nonceAfter source.last source.clock.read.1.microseconds).toNat = _
  rw [toNat_nonceAfter (by omega), Reading.toNat_microseconds (by rw [Clock.nowAt] at now; omega)]
  rfl

/-- Making a nonce uses up room for one nonce. -/
theorem HasRoom.issue (room : source.HasRoom (2 ^ 64) (count + 1)) :
    source.issue.2.HasRoom (2 ^ 64) count := by
  constructor
  · have now := room.2 0 (Nat.succ_pos count)
    have last := room.1
    change source.issue.1.toNat + count < 2 ^ 64
    rw [toNat_issue room]
    omega
  · intro earlier before
    have now := room.2 (earlier + 1) (Nat.succ_lt_succ before)
    change source.clock.nowAt (earlier + 1) + count < 2 ^ 64
    omega

/-- Room for more nonces is room for fewer. -/
theorem HasRoom.fewer {more : Nat} (room : source.HasRoom bound more) (fewer : count ≤ more) :
    source.HasRoom bound count := by
  constructor
  · have last := room.1
    omega
  · intro earlier before
    have now := room.2 earlier (Nat.lt_of_lt_of_le before fewer)
    omega

/-- With room, the next nonce is above the last one. -/
theorem last_lt_issue (room : source.HasRoom (2 ^ 64) (count + 1)) :
    source.last.toNat < source.issue.1.toNat := by
  rw [toNat_issue room]
  omega

/-- Making a nonce moves the law on by one. The floors of the last nonce and of the
first reading are merged into that of the new nonce. -/
theorem lawfulNonce_issue (room : source.HasRoom (2 ^ 64) (count + 1)) (later : Nat) :
    source.issue.2.lawfulNonce later = source.lawfulNonce (later + 1) := by
  have last : source.issue.2.last.toNat = max (source.clock.nowAt 0) (source.last.toNat + 1) :=
    toNat_issue room
  have floors : ((Finset.range (later + 1 + 1)).sup fun earlier =>
        source.clock.nowAt earlier + (later + 1 - earlier)) =
      max (source.clock.nowAt 0 + (later + 1)) ((Finset.range (later + 1)).sup fun earlier =>
        source.issue.2.clock.nowAt earlier + (later - earlier)) := by
    rw [Finset.range_add_one', Finset.sup_insert, Finset.sup_map]
    refine congrArg (max _) (Finset.sup_congr rfl fun earlier _ => ?_)
    change source.clock.nowAt (earlier + 1) + (later + 1 - (earlier + 1)) = _
    rw [Nat.add_sub_add_right]
    rfl
  rw [lawfulNonce, lawfulNonce, last, floors]
  omega

/-- The first nonce is lawful. -/
theorem lawfulNonce_zero (room : source.HasRoom (2 ^ 64) (count + 1)) :
    source.lawfulNonce 0 = source.issue.1.toNat := by
  rw [toNat_issue room, lawfulNonce]
  simp [max_comm]

/-- A lawful nonce is above the last one. -/
theorem last_lt_lawfulNonce (source : NonceSource) (count : Nat) :
    source.last.toNat < source.lawfulNonce count := by
  have floor := le_max_left (source.last.toNat + (count + 1)) ((Finset.range (count + 1)).sup
    fun earlier => source.clock.nowAt earlier + (count - earlier))
  rw [lawfulNonce]
  omega

/-- Lawful nonces increase, for every floor rises and one is added. -/
theorem lawfulNonce_strictMono (source : NonceSource) : StrictMono source.lawfulNonce := by
  apply strictMono_nat_of_lt_succ
  intro count
  have rises (earlier : Nat) (before : earlier ∈ Finset.range (count + 1)) :
      source.clock.nowAt earlier + (count - earlier) < source.lawfulNonce (count + 1) := by
    have within := Finset.mem_range.mp before
    have floor : source.clock.nowAt earlier + (count + 1 - earlier) ≤
        source.lawfulNonce (count + 1) :=
      le_max_of_le_right (Finset.le_sup
        (f := fun earlier => source.clock.nowAt earlier + (count + 1 - earlier))
        (Finset.mem_range.mpr (by omega)))
    omega
  have positive : 0 < source.lawfulNonce (count + 1) :=
    Nat.lt_of_le_of_lt (Nat.zero_le _) (source.last_lt_lawfulNonce (count + 1))
  apply max_lt
  · exact lt_max_of_lt_left (by omega)
  · exact (Finset.sup_lt_iff positive).mpr rises

/-- With room below a bound, lawful nonces stay below it. -/
theorem lawfulNonce_lt (room : source.HasRoom bound count) {earlier : Nat}
    (before : earlier < count) : source.lawfulNonce earlier < bound := by
  have last := room.1
  have positive : 0 < bound := by omega
  apply max_lt
  · omega
  · refine (Finset.sup_lt_iff positive).mpr ?_
    intro first member
    have within := Finset.mem_range.mp member
    have now := room.2 first (by omega)
    omega

end NonceSource

end ExchangeWallet.Signing
