import ExchangeWallet.Proofs.Signing.NonceLaw
import ExchangeWallet.Signing.Contention
/-!
# Runs under contention

What holds of a machine is found by following its schedule. A schedule has one reading
of the clock for every call that is begun, and a call goes by the reading that its
thread has made last. Each nonce comes of an exchange that finds the word as it was
loaded; so it is above all nonces before it, whatever the other threads have done since
the thread read the clock.

The sum of one and a word must not overflow. It does not while the word exceeds some
bound on the last nonce and the readings by no more than the nonces made so far, and
there is room above the bound for all calls that are begun.
-/
namespace ExchangeWallet.Signing.Contention

/-- The reading of a move, if that is what the move does. -/
def reading? (move : Nat × Action) : Option UInt64 :=
  match move.2 with
  | .readClock now => some now
  | _ => none

/-- The readings of the clock in a schedule, one for every call that is begun. -/
def readings (schedule : List (Nat × Action)) : List UInt64 :=
  schedule.filterMap reading?

/-- The reading that a thread has made last. -/
def latestReading (thread : Nat) (schedule : List (Nat × Action)) : Option UInt64 :=
  (readings (schedule.filter fun move => move.1 = thread)).getLast?

/-- The reading by which a call under way goes. -/
def Phase.reading? : Phase → Option UInt64
  | idle => none
  | timed now => some now
  | loaded now _ => some now

/-- How many calls are under way. -/
def Machine.pending (machine : Machine) : Nat :=
  machine.phases.countP fun phase => phase ≠ .idle

/-- The machine behind an exchange by which a thread has made its nonce. -/
def Machine.issue (machine : Machine) (thread : Nat) (now : UInt64) : Machine where
  shared := nonceAfter machine.shared now
  phases := machine.phases.set thread .idle
  issues := machine.issues ++ [⟨thread, nonceAfter machine.shared now⟩]

/-- The new nonce comes behind the others. -/
@[simp]
theorem Machine.nonces_issue (machine : Machine) (thread : Nat) (now : UInt64) :
    (machine.issue thread now).nonces = machine.nonces ++ [nonceAfter machine.shared now] := by
  simp [nonces, issue]

/-- What a move of a thread does to a machine. -/
inductive Moves (machine : Machine) (thread : Nat) : Action → Machine → Prop where
  | reads (now : UInt64) (found : machine.phases[thread]? = some .idle) :
      Moves machine thread (.readClock now) (machine.withPhase thread (.timed now))
  | loads (now : UInt64) (found : machine.phases[thread]? = some (.timed now)) :
      Moves machine thread .load (machine.withPhase thread (.loaded now machine.shared))
  | retries (now previous : UInt64) (spurious : Bool)
      (found : machine.phases[thread]? = some (.loaded now previous)) :
      Moves machine thread (.exchange spurious)
        (machine.withPhase thread (.loaded now machine.shared))
  | issues (now : UInt64) (found : machine.phases[thread]? = some (.loaded now machine.shared)) :
      Moves machine thread (.exchange false) (machine.issue thread now)

/-- A machine makes no other moves. -/
theorem moves_of_move? {machine next : Machine} {thread : Nat} {action : Action}
    (moved : machine.move? thread action = some next) : Moves machine thread action next := by
  unfold Machine.move? at moved
  split at moved
  · next found =>
    cases moved
    exact .reads _ found
  · next found =>
    cases moved
    exact .loads _ found
  · next found =>
    split at moved
    · next holds =>
      obtain ⟨rfl, rfl⟩ := holds
      cases moved
      exact .issues _ found
    · cases moved
      exact .retries _ _ _ found
  · cases moved

/-- The last move of a run is made by the machine that the moves before it lead to. -/
theorem run?_snoc {machine final : Machine} {schedule : List (Nat × Action)}
    {move : Nat × Action} (ran : machine.run? (schedule ++ [move]) = some final) :
    ∃ earlier, machine.run? schedule = some earlier ∧ Moves earlier move.1 move.2 final := by
  rw [Machine.run?, List.foldlM_append] at ran
  obtain ⟨earlier, before, last⟩ := Option.bind_eq_some_iff.mp ran
  exact ⟨earlier, before, moves_of_move? (by simpa using last)⟩

/-- The moves of a run can be parted anywhere. -/
theorem run?_append {machine final : Machine} {before after : List (Nat × Action)}
    (ran : machine.run? (before ++ after) = some final) :
    ∃ earlier, machine.run? before = some earlier ∧ earlier.run? after = some final := by
  rw [Machine.run?, List.foldlM_append] at ran
  exact Option.bind_eq_some_iff.mp ran

/-- One move more brings in its own reading. -/
theorem readings_snoc (schedule : List (Nat × Action)) (move : Nat × Action) :
    readings (schedule ++ [move]) = readings schedule ++ (reading? move).toList := by
  rw [readings, List.filterMap_append]
  cases reading : reading? move <;> simp [readings, reading]

/-- A thread that reads the clock has made its latest reading. -/
theorem latestReading_read (thread : Nat) (now : UInt64) (schedule : List (Nat × Action)) :
    latestReading thread (schedule ++ [(thread, .readClock now)]) = some now := by
  simp [latestReading, readings_snoc, reading?]

/-- No other move changes the latest reading of a thread. -/
theorem latestReading_other {thread : Nat} {move : Nat × Action}
    (other : move.1 ≠ thread ∨ reading? move = none) (schedule : List (Nat × Action)) :
    latestReading thread (schedule ++ [move]) = latestReading thread schedule := by
  rw [latestReading, List.filter_append]
  by_cases same : move.1 = thread
  · have noReading := other.resolve_left (not_not_intro same)
    simp [same, readings_snoc, noReading, latestReading]
  · simp [same, latestReading]

/-- The latest reading of a thread is a reading of the schedule. -/
theorem mem_readings_of_latestReading {thread : Nat} {now : UInt64}
    {schedule : List (Nat × Action)} (latest : latestReading thread schedule = some now) :
    now ∈ readings schedule := by
  have member := List.mem_of_getLast? latest
  exact (List.filter_sublist.filterMap reading?).mem member

/-- What is known of a machine behind a schedule. -/
structure Sound (last : UInt64) (bound : Nat) (schedule : List (Nat × Action))
    (machine : Machine) : Prop where
  /-- A call that was begun has made its nonce or is under way. -/
  counted : machine.issues.length + machine.pending = (readings schedule).length
  /-- A call under way goes by its own reading. -/
  timed : ∀ thread phase, machine.phases[thread]? = some phase →
    ∀ now ∈ phase.reading?, latestReading thread schedule = some now
  /-- Every nonce is above the ones before it. -/
  increasing : (last :: machine.nonces).Pairwise (· < ·)
  /-- The word holds a nonce that was made, or the last one. -/
  newest : machine.shared ∈ last :: machine.nonces
  /-- No nonce is above the word. -/
  largest : ∀ nonce ∈ last :: machine.nonces, nonce ≤ machine.shared
  bounded : machine.shared.toNat ≤ bound + machine.issues.length

/-- There is room above a bound for every call of a schedule. -/
structure HasRoom (last : UInt64) (bound : Nat) (schedule : List (Nat × Action)) : Prop where
  last_le : last.toNat ≤ bound
  reading_le : ∀ now ∈ readings schedule, now.toNat ≤ bound
  room : bound + (readings schedule).length < 2 ^ 64

section Steps

variable {last : UInt64} {bound : Nat} {schedule : List (Nat × Action)}
  {machine next : Machine} {thread : Nat} {action : Action}

/-- A schedule that stops earlier needs no more room. -/
theorem HasRoom.before {after : List (Nat × Action)}
    (room : HasRoom last bound (schedule ++ after)) : HasRoom last bound schedule := by
  have parted : readings (schedule ++ after) = readings schedule ++ readings after :=
    List.filterMap_append
  refine ⟨room.last_le, ?_, ?_⟩
  · intro now member
    refine room.reading_le now ?_
    rw [parted]
    exact List.mem_append_left _ member
  · have within := room.room
    rw [parted, List.length_append] at within
    omega

/-- Putting a thread in another phase counts it among the calls under way or not, as
the phases say. -/
theorem pending_set {phases : List Phase} {old : Phase} (found : phases[thread]? = some old)
    (new : Phase) :
    (phases.set thread new).countP (· ≠ .idle) + (if old = .idle then 0 else 1) =
      phases.countP (· ≠ .idle) + (if new = .idle then 0 else 1) := by
  obtain ⟨within, isOld⟩ := List.getElem?_eq_some_iff.mp found
  have counted (busy : old ≠ .idle) : 0 < phases.countP (· ≠ .idle) :=
    List.countP_pos_iff.mpr ⟨old, List.mem_of_getElem? found, by simpa using busy⟩
  rw [List.countP_set within, isOld]
  generalize phases.countP (· ≠ .idle) = total at counted
  by_cases wasIdle : old = .idle
  · by_cases isIdle : new = .idle <;> simp [wasIdle, isIdle]
  · have positive := counted wasIdle
    by_cases isIdle : new = .idle <;> simp [wasIdle, isIdle] <;> omega

/-- The phases of other threads stay, and the thread itself has the new one. -/
theorem phase_cases {phases : List Phase} {new phase : Phase} {other : Nat}
    (found : (phases.set thread new)[other]? = some phase) :
    (other = thread ∧ phase = new) ∨ (other ≠ thread ∧ phases[other]? = some phase) := by
  by_cases same : other = thread
  · subst same
    have within : other < phases.length := by
      simpa using (List.getElem?_eq_some_iff.mp found).1
    rw [List.getElem?_set_self within] at found
    exact .inl ⟨rfl, (Option.some.inj found).symm⟩
  · rw [List.getElem?_set_ne (Ne.symm same)] at found
    exact .inr ⟨same, found⟩

/-- An exchange that succeeds makes a nonce above the word. Its call is still under way
when it is made, so there are no more nonces yet than there is room for. -/
theorem Sound.issued (sound : Sound last bound schedule machine)
    (room : HasRoom last bound schedule) {now previous : UInt64}
    (found : machine.phases[thread]? = some (.loaded now previous)) :
    (nonceAfter machine.shared now).toNat = max now.toNat (machine.shared.toNat + 1) ∧
      now.toNat ≤ bound := by
  have latest := sound.timed thread _ found now rfl
  have reading := room.reading_le now (mem_readings_of_latestReading latest)
  have underWay : 0 < machine.pending :=
    List.countP_pos_iff.mpr ⟨_, List.mem_of_getElem? found, by simp⟩
  have counted := sound.counted
  have bounded := sound.bounded
  have within := room.room
  exact ⟨toNat_nonceAfter (by omega), reading⟩

/-- Behind a move, the calls that are begun and under way are those there were before,
and the one that the thread begins, goes on with or ends. -/
theorem Sound.counted_move (sound : Sound last bound schedule machine) {old new : Phase}
    (found : machine.phases[thread]? = some old) (made : Nat)
    (tally : (if old = .idle then 0 else 1) + (reading? (thread, action)).toList.length =
      (if new = .idle then 0 else 1) + made) :
    machine.issues.length + made + (machine.phases.set thread new).countP (· ≠ .idle) =
      (readings (schedule ++ [(thread, action)])).length := by
  have counted : machine.issues.length + machine.phases.countP (· ≠ .idle) =
      (readings schedule).length := sound.counted
  have moved := pending_set found new
  rw [readings_snoc, List.length_append]
  omega

/-- A move that makes no nonce keeps a machine sound, if the call of its thread goes by
its own reading behind it. -/
theorem Sound.waiting (sound : Sound last bound schedule machine) {old new : Phase}
    (found : machine.phases[thread]? = some old)
    (tally : (if old = .idle then 0 else 1) + (reading? (thread, action)).toList.length =
      if new = .idle then 0 else 1)
    (own : ∀ now ∈ new.reading?,
      latestReading thread (schedule ++ [(thread, action)]) = some now) :
    Sound last bound (schedule ++ [(thread, action)]) (machine.withPhase thread new) where
  counted := sound.counted_move found 0 tally
  timed := by
    intro other phase held now isReading
    rcases phase_cases held with ⟨rfl, rfl⟩ | ⟨different, before⟩
    · exact own now isReading
    · rw [latestReading_other (.inl (Ne.symm different))]
      exact sound.timed other phase before now isReading
  increasing := sound.increasing
  newest := sound.newest
  largest := sound.largest
  bounded := sound.bounded

/-- A call that goes on without reading the clock still goes by its own reading. -/
theorem Sound.goes_on (sound : Sound last bound schedule machine) {old new : Phase}
    (found : machine.phases[thread]? = some old) (same : new.reading? = old.reading?)
    (noReading : reading? (thread, action) = none) :
    ∀ now ∈ new.reading?, latestReading thread (schedule ++ [(thread, action)]) = some now := by
  intro now isReading
  rw [same] at isReading
  rw [latestReading_other (.inr noReading)]
  exact sound.timed thread old found now isReading

/-- A sound machine stays sound, whichever thread moves. -/
theorem Sound.moves (sound : Sound last bound schedule machine)
    (room : HasRoom last bound (schedule ++ [(thread, action)]))
    (moves : Moves machine thread action next) :
    Sound last bound (schedule ++ [(thread, action)]) next := by
  cases moves with
  | reads now found =>
    refine sound.waiting found rfl ?_
    intro own isOwn
    cases isOwn
    exact latestReading_read thread now schedule
  | loads now found => exact sound.waiting found rfl (sound.goes_on found rfl rfl)
  | retries now previous spurious found =>
    exact sound.waiting found rfl (sound.goes_on found rfl rfl)
  | issues now found =>
    obtain ⟨value, reading⟩ := sound.issued room.before found
    have above : machine.shared < nonceAfter machine.shared now := by
      rw [UInt64.lt_iff_toNat_lt, value]
      omega
    have length : (machine.issue thread now).issues.length = machine.issues.length + 1 :=
      List.length_append
    refine ⟨?_, ?_, ?_, ?_, ?_, ?_⟩
    · rw [length]
      exact sound.counted_move found 1 rfl
    · intro other phase held own isOwn
      rcases phase_cases held with ⟨_, rfl⟩ | ⟨different, before⟩
      · cases isOwn
      · rw [latestReading_other (.inl (Ne.symm different))]
        exact sound.timed other phase before own isOwn
    · rw [Machine.nonces_issue, ← List.cons_append, List.pairwise_append]
      refine ⟨sound.increasing, List.pairwise_singleton _ _, ?_⟩
      intro earlier member latest isLatest
      rw [List.mem_singleton.mp isLatest]
      exact UInt64.lt_of_le_of_lt (sound.largest earlier member) above
    · rw [Machine.nonces_issue]
      exact List.mem_cons_of_mem _ (List.mem_append_right _ (List.mem_singleton.mpr rfl))
    · intro nonce member
      rw [Machine.nonces_issue, ← List.cons_append, List.mem_append, List.mem_singleton] at member
      rcases member with before | rfl
      · exact UInt64.le_of_lt (UInt64.lt_of_le_of_lt (sound.largest nonce before) above)
      · exact UInt64.le_refl _
    · have bounded := sound.bounded
      rw [length]
      change (nonceAfter machine.shared now).toNat ≤ _
      omega

/-- A move keeps the word and makes no nonce, or it is an exchange that makes one by the
reading of its call. -/
theorem Moves.issues_cases (moves : Moves machine thread action next) :
    (next.shared = machine.shared ∧ next.issues = machine.issues) ∨
      action = .exchange false ∧ ∃ now,
        machine.phases[thread]? = some (.loaded now machine.shared) ∧
        next = machine.issue thread now := by
  cases moves with
  | issues now found => exact .inr ⟨rfl, now, found, rfl⟩
  | _ => exact .inl ⟨rfl, rfl⟩

end Steps

section Runs

variable {threads : Nat} {last : UInt64} {bound : Nat} {schedule : List (Nat × Action)}
  {machine : Machine}

/-- Threads that have done nothing are sound. -/
theorem start_sound (threads : Nat) (room : HasRoom last bound []) :
    Sound last bound [] (Machine.start threads last) where
  counted := by simp [Machine.start, Machine.pending, readings, List.countP_replicate]
  timed := by
    intro thread phase found now isReading
    have idle : phase = .idle := List.eq_of_mem_replicate (List.mem_of_getElem? found)
    rw [idle] at isReading
    cases isReading
  increasing := List.pairwise_singleton _ _
  newest := List.mem_singleton.mpr rfl
  largest := by
    intro nonce member
    rw [List.mem_singleton.mp member]
    exact UInt64.le_refl _
  bounded := room.last_le

/-- Every machine that a schedule with room leads to is sound. -/
theorem sound_of_run (ran : (Machine.start threads last).run? schedule = some machine)
    (room : HasRoom last bound schedule) : Sound last bound schedule machine := by
  induction schedule using List.reverseRecOn generalizing machine with
  | nil =>
    cases ran
    exact start_sound threads room
  | append_singleton schedule move inductionHypothesis =>
    obtain ⟨earlier, before, moves⟩ := run?_snoc ran
    exact (inductionHypothesis before room.before).moves room moves

/-- A run keeps the nonces that were made before it. -/
theorem issues_prefix_of_run {earlier final : Machine} (ran : earlier.run? schedule = some final) :
    earlier.issues <+: final.issues := by
  induction schedule using List.reverseRecOn generalizing final with
  | nil =>
    cases ran
    exact List.prefix_refl _
  | append_singleton schedule move inductionHypothesis =>
    obtain ⟨middle, before, moves⟩ := run?_snoc ran
    have kept := inductionHypothesis before
    rcases moves.issues_cases with ⟨_, same⟩ | ⟨_, now, _, rfl⟩
    · rwa [same]
    · exact kept.trans (List.prefix_append _ _)

/-- Every nonce was made by an exchange of its thread, and is not below the reading that
the thread had made last. The last nonce is that of the last exchange that made one; the
others were there before it. -/
theorem own_reading_of_run (ran : (Machine.start threads last).run? schedule = some machine)
    (room : HasRoom last bound schedule) {front back : List Issue} {issue : Issue}
    (made : machine.issues = front ++ issue :: back) :
    ∃ before after earlier now,
      schedule = before ++ (issue.thread, .exchange false) :: after ∧
      (Machine.start threads last).run? before = some earlier ∧ earlier.issues = front ∧
      latestReading issue.thread before = some now ∧ now ≤ issue.nonce := by
  induction schedule using List.reverseRecOn generalizing machine back with
  | nil =>
    cases ran
    simp [Machine.start] at made
  | append_singleton schedule move inductionHypothesis =>
    obtain ⟨earlier, before, moves⟩ := run?_snoc ran
    have madeBefore {later : List Issue} (present : earlier.issues = front ++ issue :: later) :
        ∃ before after earlier now,
          schedule ++ [move] = before ++ (issue.thread, .exchange false) :: after ∧
          (Machine.start threads last).run? before = some earlier ∧ earlier.issues = front ∧
          latestReading issue.thread before = some now ∧ now ≤ issue.nonce := by
      obtain ⟨begun, after, middle, now, parted, reached⟩ :=
        inductionHypothesis before room.before present
      exact ⟨begun, after ++ [move], middle, now, by simp [parted], reached⟩
    rcases moves.issues_cases with ⟨_, same⟩ | ⟨exchanged, now, found, rfl⟩
    · exact madeBefore (same.symm.trans made)
    · change earlier.issues ++ _ = _ at made
      rcases List.eq_nil_or_concat back with rfl | ⟨others, latest, rfl⟩
      · obtain ⟨fronts, isNew⟩ := List.append_inj' made rfl
        obtain rfl := (List.cons.inj isNew).1
        have own := (sound_of_run before room.before).timed move.1 _ found now rfl
        refine ⟨schedule, [], earlier, now, ?_, before, fronts, own, ?_⟩
        · rw [← exchanged]
        · exact le_nonceAfter earlier.shared now
      · rw [List.concat_eq_append, ← List.cons_append, ← List.append_assoc] at made
        exact madeBefore (List.append_inj' made rfl).1

/-- If the clock never gets above the last nonce, the nonces are the numbers behind it. -/
theorem nonces_of_slow_clock (ran : (Machine.start threads last).run? schedule = some machine)
    (room : HasRoom last last.toNat schedule) :
    machine.shared.toNat = last.toNat + machine.issues.length ∧
      machine.nonces.map UInt64.toNat =
        List.range' (last.toNat + 1) machine.issues.length := by
  induction schedule using List.reverseRecOn generalizing machine with
  | nil =>
    cases ran
    exact ⟨rfl, rfl⟩
  | append_singleton schedule move inductionHypothesis =>
    obtain ⟨earlier, before, moves⟩ := run?_snoc ran
    obtain ⟨shared, nonces⟩ := inductionHypothesis before room.before
    rcases moves.issues_cases with ⟨sameWord, same⟩ | ⟨_, now, found, rfl⟩
    · rw [Machine.nonces, same, sameWord]
      exact ⟨shared, nonces⟩
    · obtain ⟨value, slow⟩ := (sound_of_run before room.before).issued room.before found
      have following : (nonceAfter earlier.shared now).toNat =
          last.toNat + 1 + earlier.issues.length := by omega
      have length : (earlier.issue move.1 now).issues.length = earlier.issues.length + 1 :=
        List.length_append
      rw [length]
      constructor
      · change (nonceAfter earlier.shared now).toNat = _
        omega
      · rw [Machine.nonces_issue, List.map_append, nonces, List.range'_1_concat, ← following]
        rfl

end Runs

/-- Whatever the schedule, no nonce is made twice. They increase in the order of their
exchanges and within each thread, are above the last nonce and not below the reading of
their own call. The word never decreases and always holds the largest nonce so far, or
the last one. Calls that were begun have made a nonce or are under way; and if the clock
never gets above the last nonce, the nonces are the numbers behind it without a gap. -/
theorem nonces_safe (threads : Nat) (last : UInt64) (schedule : List (Nat × Action))
    (machine : Machine) (ran : (Machine.start threads last).run? schedule = some machine)
    (roomAboveLast : last.toNat + (readings schedule).length < 2 ^ 64)
    (roomAboveClock : ∀ now ∈ readings schedule,
      now.toNat + (readings schedule).length < 2 ^ 64) :
    machine.nonces.Nodup ∧
      machine.nonces.Pairwise (· < ·) ∧
      (∀ thread, (machine.noncesOf thread).Pairwise (· < ·)) ∧
      (∀ nonce ∈ machine.nonces, last < nonce) ∧
      (∀ front issue back, machine.issues = front ++ issue :: back →
        ∃ before after earlier now,
          schedule = before ++ (issue.thread, .exchange false) :: after ∧
          (Machine.start threads last).run? before = some earlier ∧ earlier.issues = front ∧
          latestReading issue.thread before = some now ∧ now ≤ issue.nonce) ∧
      (∀ before after earlier, schedule = before ++ after →
        (Machine.start threads last).run? before = some earlier →
        earlier.shared ≤ machine.shared ∧ earlier.shared ∈ last :: earlier.nonces ∧
          ∀ nonce ∈ last :: earlier.nonces, nonce ≤ earlier.shared) ∧
      machine.issues.length + machine.pending = (readings schedule).length ∧
      ((∀ now ∈ readings schedule, now ≤ last) →
        machine.nonces.map UInt64.toNat =
          List.range' (last.toNat + 1) machine.issues.length) := by
  have room : HasRoom last (2 ^ 64 - 1 - (readings schedule).length) schedule := by
    refine ⟨by omega, ?_, by omega⟩
    intro now member
    have := roomAboveClock now member
    omega
  have sound := sound_of_run ran room
  obtain ⟨above, increasing⟩ := List.pairwise_cons.mp sound.increasing
  refine ⟨?_, increasing, ?_, above, ?_, ?_, sound.counted, ?_⟩
  · exact increasing.imp fun less => UInt64.ne_of_lt less
  · intro thread
    exact increasing.sublist (List.filter_sublist.map Issue.nonce)
  · intro front issue back made
    exact own_reading_of_run ran room made
  · rintro before after earlier rfl reached
    have soundBefore := sound_of_run reached room.before
    obtain ⟨middle, same, rest⟩ := run?_append ran
    obtain rfl := Option.some.inj (reached.symm.trans same)
    refine ⟨sound.largest _ ?_, soundBefore.newest, soundBefore.largest⟩
    have kept := ((issues_prefix_of_run rest).map Issue.nonce).subset
    exact List.cons_subset_cons last kept soundBefore.newest
  · intro slow
    refine (nonces_of_slow_clock ran ⟨le_refl _, ?_, roomAboveLast⟩).2
    intro now member
    exact UInt64.le_iff_toNat_le.mp (slow now member)

/-- Two threads load the same word. The exchange of the second one fails twice, once
because the word has changed and once for no reason, and then makes the next nonce. -/
theorem nonces_safe_through_failures :
    let schedule : List (Nat × Action) :=
      [(0, .readClock 4), (1, .readClock 3), (0, .load), (1, .load), (0, .exchange false),
        (1, .exchange false), (1, .exchange true), (1, .exchange false)]
    let machine : Machine := ⟨7, [.idle, .idle], [⟨0, 6⟩, ⟨1, 7⟩]⟩
    (Machine.start 2 5).run? schedule = some machine ∧
      machine.nonces.Nodup ∧ machine.nonces.map UInt64.toNat = List.range' 6 2 := by
  intro schedule machine
  have ran : (Machine.start 2 5).run? schedule = some machine := rfl
  have found : readings schedule = [4, 3] := rfl
  obtain ⟨distinct, _, _, _, _, _, _, gapless⟩ :=
    nonces_safe 2 5 schedule machine ran (by simp [found]) (by simp [found])
  exact ⟨ran, distinct, gapless (by simp [found])⟩

end ExchangeWallet.Signing.Contention
