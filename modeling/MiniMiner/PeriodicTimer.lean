import MiniMiner.TimerProperties

/-! `timerReset`. A timer that is reset after each expiry keeps the rhythm of its
first start: the start value advances by whole intervals and never passes the true
time. -/

set_option autoImplicit false

namespace MiniMiner

open LittleEndian

inductive PeriodicEvent where
  | tick
  | expired
  | reset
  deriving DecidableEq

namespace TimerState

def periodicStep (state : TimerState) : PeriodicEvent → TimerState
  | .tick => state.step .tick
  | .expired => state.step .expired
  | .reset => { state with timer := timerReset state.timer }

/-- The state some events after `timerSet`, the latest of them first. -/
def periodic (start : TimerState) (interval : Word) : List PeriodicEvent → TimerState
  | [] => start.step (.set interval)
  | event :: earlier => (start.periodic interval earlier).periodicStep event

/-- How often `timerExpired` has returned 1. -/
def expiries (start : TimerState) (interval : Word) : List PeriodicEvent → Nat
  | [] => 0
  | event :: earlier =>
      match event with
      | .expired =>
          start.expiries interval earlier + if (start.periodic interval earlier).due then 1 else 0
      | _ => start.expiries interval earlier

/-- `timerReset` is called only after a `timerExpired` that returned 1, and once for
each. -/
def ResetsExpired (start : TimerState) (interval : Word) : List PeriodicEvent → Prop
  | [] => True
  | event :: earlier =>
      (event = .reset → earlier.count .reset < start.expiries interval earlier) ∧
        start.ResetsExpired interval earlier

instance ResetsExpired.decidable (start : TimerState) (interval : Word) :
    (events : List PeriodicEvent) → Decidable (start.ResetsExpired interval events)
  | [] => .isTrue trivial
  | _ :: earlier =>
      have := ResetsExpired.decidable start interval earlier
      inferInstanceAs (Decidable (_ ∧ _))

/-- The true time of the stored start value is so many whole intervals after
`timerSet`, and no expiry was reported before its own interval had passed. -/
structure Rhythm (start : TimerState) (interval : Word) (events : List PeriodicEvent) : Prop where
  kept : (start.periodic interval events).timer.interval = interval
  advanced : (start.periodic interval events).timer.start =
    start.time + BitVec.ofNat 32 (events.count .reset * interval.toNat)
  shown : (start.periodic interval events).time = start.time + BitVec.ofNat 32 (events.count .tick)
  reported : events.count .reset ≤ start.expiries interval events
  running : (start.periodic interval events).timer.active ≠ 0 →
    start.expiries interval events = events.count .reset
  stopped : start.expiries interval events ≤ events.count .reset + 1
  passed : start.expiries interval events * interval.toNat ≤ events.count .tick

namespace Rhythm

variable {start : TimerState} {interval : Word} {events : List PeriodicEvent}

theorem set : start.Rhythm interval [] := by
  constructor
  · rfl
  · simp [periodic, step, timerSet]
  · simp [periodic, step]
  · exact Nat.le_refl 0
  · exact fun _ => rfl
  · exact Nat.zero_le 1
  · simp [expiries]

theorem tick (rhythm : start.Rhythm interval events) : start.Rhythm interval (.tick :: events) := by
  have resets : (PeriodicEvent.tick :: events).count .reset = events.count .reset := by simp
  have ticks : (PeriodicEvent.tick :: events).count .tick = events.count .tick + 1 := by simp
  constructor
  · exact rhythm.kept
  · rw [resets]
    exact rhythm.advanced
  · rw [ticks, BitVec.ofNat_add, ← BitVec.add_assoc, ← rhythm.shown]
    rfl
  · rw [resets]
    exact rhythm.reported
  · rw [resets]
    exact rhythm.running
  · rw [resets]
    exact rhythm.stopped
  · rw [ticks]
    exact Nat.le_succ_of_le rhythm.passed

/-- The clock stands this far after the stored start value, in true time. -/
theorem time_eq (rhythm : start.Rhythm interval events) :
    (start.periodic interval events).time = (start.periodic interval events).timer.start +
      BitVec.ofNat 32 (events.count .tick - events.count .reset * interval.toNat) := by
  have behind : events.count .reset * interval.toNat ≤ events.count .tick :=
    (Nat.mul_le_mul_right _ rhythm.reported).trans rhythm.passed
  rw [rhythm.shown, rhythm.advanced, BitVec.add_assoc, ← BitVec.ofNat_add,
    Nat.add_sub_cancel' behind]

theorem passed_of_due (rhythm : start.Rhythm interval events)
    (due : (start.periodic interval events).due = true) :
    (start.expiries interval events + 1) * interval.toNat ≤ events.count .tick := by
  have active := active_of_timerDue due
  have elapsed := interval_le_of_timerDue active rhythm.time_eq due
  have passed := rhythm.passed
  rw [rhythm.kept] at elapsed
  rw [rhythm.running active] at passed ⊢
  rw [Nat.succ_mul]
  omega

theorem expired (rhythm : start.Rhythm interval events) :
    start.Rhythm interval (.expired :: events) := by
  have resets : (PeriodicEvent.expired :: events).count .reset = events.count .reset := by simp
  have ticks : (PeriodicEvent.expired :: events).count .tick = events.count .tick := by simp
  have reported : start.expiries interval (.expired :: events) =
      start.expiries interval events + if (start.periodic interval events).due then 1 else 0 := rfl
  cases due : (start.periodic interval events).due with
  | false =>
      have same : start.periodic interval (.expired :: events) = start.periodic interval events :=
        congrArg (fun timer => { start.periodic interval events with timer })
          (timerExpired_of_not_due due)
      rw [due] at reported
      constructor
      · rw [same]
        exact rhythm.kept
      · rw [same, resets]
        exact rhythm.advanced
      · rw [same, ticks]
        exact rhythm.shown
      · rw [reported, resets]
        exact rhythm.reported
      · rw [same, reported, resets]
        exact rhythm.running
      · rw [reported, resets]
        exact rhythm.stopped
      · rw [reported, ticks]
        exact rhythm.passed
  | true =>
      have fired : start.periodic interval (.expired :: events) =
          { start.periodic interval events with
            timer := { (start.periodic interval events).timer with active := 0 } } :=
        congrArg (fun timer => { start.periodic interval events with timer }) (if_pos due)
      have running := rhythm.running (active_of_timerDue due)
      rw [due] at reported
      constructor
      · rw [fired]
        exact rhythm.kept
      · rw [fired, resets]
        exact rhythm.advanced
      · rw [fired, ticks]
        exact rhythm.shown
      · rw [reported, resets, running]
        exact Nat.le_succ _
      · rw [fired]
        exact fun active => absurd rfl active
      · rw [reported, resets, running]
        exact Nat.le_refl _
      · rw [reported, ticks]
        exact rhythm.passed_of_due due

theorem afterReset (rhythm : start.Rhythm interval events)
    (owed : events.count .reset < start.expiries interval events) :
    start.Rhythm interval (.reset :: events) := by
  have resets : (PeriodicEvent.reset :: events).count .reset = events.count .reset + 1 := by simp
  have ticks : (PeriodicEvent.reset :: events).count .tick = events.count .tick := by simp
  have once := rhythm.stopped
  constructor
  · exact rhythm.kept
  · show (start.periodic interval events).timer.start +
      (start.periodic interval events).timer.interval = _
    rw [rhythm.advanced, rhythm.kept, resets, Nat.succ_mul, BitVec.ofNat_add, BitVec.ofNat_toNat,
      BitVec.setWidth_eq, BitVec.add_assoc]
  · rw [ticks]
    exact rhythm.shown
  · rw [resets]
    exact owed
  · rw [resets]
    exact fun _ => Nat.le_antisymm once owed
  · rw [resets]
    exact Nat.le_succ_of_le once
  · rw [ticks]
    exact rhythm.passed

end Rhythm

theorem rhythm (start : TimerState) (interval : Word) {events : List PeriodicEvent}
    (resets : start.ResetsExpired interval events) : start.Rhythm interval events := by
  induction events with
  | nil => exact .set
  | cons event earlier ih =>
      obtain ⟨owed, before⟩ := resets
      have rhythm := ih before
      cases event with
      | tick => exact rhythm.tick
      | expired => exact rhythm.expired
      | reset => exact rhythm.afterReset (owed rfl)

end TimerState

/-- Whatever the delays of the polls and however often the clock wraps: the k-th
expiry is reported no earlier than k intervals of true time after `timerSet`, and k
resets have moved the stored start by k intervals. -/
theorem timerReset_drift_free (start : TimerState) (interval : Word)
    (events : List PeriodicEvent) (resets : start.ResetsExpired interval events) (k : Nat) :
    (start.expiries interval events + 1 = k → (start.periodic interval events).due = true →
      k * interval.toNat ≤ events.count .tick) ∧
    (events.count .reset = k → (start.periodic interval events).timer.start =
      (start.periodic interval []).timer.start + BitVec.ofNat 32 (k * interval.toNat)) := by
  have rhythm := start.rhythm interval resets
  constructor
  · rintro rfl due
    exact rhythm.passed_of_due due
  · rintro rfl
    exact rhythm.advanced

/-- The first expiry is polled two ticks late and after the clock has wrapped; the
second one still belongs to the end of the second interval. -/
theorem timerReset_drift_free_latePoll :
    let start : TimerState := ⟨⟨0, 0, 0⟩, 0xFFFFFFFE⟩
    let events : List PeriodicEvent :=
      .replicate 4 .tick ++ [.reset, .expired] ++ .replicate 7 .tick
    (start.periodic 5 events).due = true ∧ 2 * 5 ≤ events.count .tick ∧
      (start.periodic 5 events).timer.start = 3 := by
  intro start events
  have due : (start.periodic 5 events).due = true := by decide
  have resets : start.ResetsExpired 5 events := by decide
  have second : start.expiries 5 events + 1 = 2 := by decide
  have once : events.count .reset = 1 := by decide
  refine ⟨due, (timerReset_drift_free start 5 events resets 2).1 second due, ?_⟩
  exact ((timerReset_drift_free start 5 events resets 1).2 once).trans (by decide)

/-- A poll that is late is never missed: more than an interval after the stored
start, a running timer is due until the clock has come round. -/
theorem periodic_due_of_late (start : TimerState) (interval : Word) {events : List PeriodicEvent}
    (resets : start.ResetsExpired interval events)
    (active : (start.periodic interval events).timer.active ≠ 0)
    (late : (start.expiries interval events + 1) * interval.toNat < events.count .tick)
    (bounded : events.count .tick < start.expiries interval events * interval.toNat + 2 ^ 32) :
    (start.periodic interval events).due = true := by
  have rhythm := start.rhythm interval resets
  have running := rhythm.running active
  rw [running, Nat.succ_mul] at late
  rw [running] at bounded
  refine timerDue_of_elapsed active rhythm.time_eq ?_ ?_
  · rw [rhythm.kept]
    omega
  · omega

end MiniMiner
