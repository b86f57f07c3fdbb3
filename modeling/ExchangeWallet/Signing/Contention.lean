import ExchangeWallet.Signing.Nonce
/-!
# Nonces under contention

Several threads make nonces from one shared word, the last nonce, without a lock. A
thread reads the clock, loads the word, and then tries to exchange what it loaded
for the nonce that follows. The exchange fails if the word has changed, and may fail
for no reason; either way the thread takes what the word holds and tries again.

A schedule says which thread does what next. A move that does not fit what its
thread has done so far is not a move, and a schedule with one describes no run.
-/
namespace ExchangeWallet.Signing.Contention

/-- How far a thread is with its next nonce. -/
inductive Phase where
  | idle
  | timed (now : UInt64)
  | loaded (now previous : UInt64)
deriving DecidableEq

/-- What a thread can do. -/
inductive Action where
  | readClock (now : UInt64)
  | load
  /-- Tries the exchange, which is to fail if `spurious` is set. -/
  | exchange (spurious : Bool)
deriving DecidableEq

/-- A nonce and the thread that made it. -/
structure Issue where
  thread : Nat
  nonce : UInt64
deriving DecidableEq

/-- The shared word, the phases of the threads, and the nonces made so far in the
order of their exchanges. -/
structure Machine where
  shared : UInt64
  phases : List Phase
  issues : List Issue
deriving DecidableEq

namespace Machine

/-- Threads that have done nothing, and a last nonce. -/
def start (threads : Nat) (last : UInt64) : Machine :=
  ⟨last, List.replicate threads .idle, []⟩

/-- The machine with a thread in another phase. -/
def withPhase (machine : Machine) (thread : Nat) (phase : Phase) : Machine :=
  { machine with phases := machine.phases.set thread phase }

/-- A move of a thread, if it fits. -/
def move? (machine : Machine) (thread : Nat) (action : Action) : Option Machine :=
  match machine.phases[thread]?, action with
  | some .idle, .readClock now => some (machine.withPhase thread (.timed now))
  | some (.timed now), .load => some (machine.withPhase thread (.loaded now machine.shared))
  | some (.loaded now previous), .exchange spurious =>
    if machine.shared = previous ∧ spurious = false then
      let nonce := nonceAfter previous now
      some
        { shared := nonce
          phases := machine.phases.set thread .idle
          issues := machine.issues ++ [⟨thread, nonce⟩] }
    else some (machine.withPhase thread (.loaded now machine.shared))
  | _, _ => none

/-- The moves of a schedule, one after the other. -/
def run? (machine : Machine) (schedule : List (Nat × Action)) : Option Machine :=
  schedule.foldlM (fun machine move => machine.move? move.1 move.2) machine

/-- The nonces in the order of their exchanges. -/
def nonces (machine : Machine) : List UInt64 :=
  machine.issues.map Issue.nonce

/-- The nonces of one thread, in the order in which it made them. -/
def noncesOf (machine : Machine) (thread : Nat) : List UInt64 :=
  (machine.issues.filter fun issue => issue.thread = thread).map Issue.nonce

end Machine

/-- Whether every number is larger than the one before it. -/
def isIncreasing : List UInt64 → Bool
  | first :: second :: rest => first < second && isIncreasing (second :: rest)
  | _ => true

/-- The moves of a round in which every thread makes a nonce. All threads load the
word before the first exchange, so every thread but the first has to try twice. -/
def round (threads : Nat) (now : UInt64) : List (Nat × Action) :=
  (List.range threads).map (fun thread => (thread, .readClock now)) ++
    (List.range threads).map (fun thread => (thread, .load)) ++
    (List.range threads).flatMap fun thread =>
      (thread, .exchange false) :: if thread = 0 then [] else [(thread, .exchange false)]

/-- What can be seen of the nonces that several threads have made. -/
structure Summary where
  /-- Whether every thread saw its own nonces increase. -/
  increasing : Bool
  /-- How many nonces are different. -/
  distinct : Nat
  least : Option UInt64
  greatest : Option UInt64
deriving DecidableEq

/-- The summary of a run of a number of threads. -/
def Machine.summary (machine : Machine) (threads : Nat) : Summary where
  increasing := (List.range threads).all fun thread => isIncreasing (machine.noncesOf thread)
  distinct := machine.nonces.eraseDups.length
  least := machine.nonces.min?
  greatest := machine.nonces.max?

/-- The summary of as many rounds as each thread makes nonces, at a clock that
stands still. -/
def summary? (threads each : Nat) (last now : UInt64) : Option Summary :=
  let schedule := (List.replicate each (round threads now)).flatten
  ((Machine.start threads last).run? schedule).map fun machine => machine.summary threads

end ExchangeWallet.Signing.Contention
