import MiniMiner.Timer

/-! Runs of one timer against the true time, and what the two branches of
`timerExpired` make of the position of the clock. -/

set_option autoImplicit false

namespace MiniMiner

open LittleEndian

inductive TimerEvent where
  | set (interval : Word)
  | restart
  | stop
  | expired
  | tick
  deriving DecidableEq

structure TimerState where
  timer : Timer
  time : Word
  deriving DecidableEq

namespace TimerState

def due (state : TimerState) : Bool := timerDue state.timer state.time

def step (state : TimerState) : TimerEvent → TimerState
  | .set interval => { state with timer := timerSet state.timer interval state.time }
  | .restart => { state with timer := timerRestart state.timer state.time }
  | .stop => { state with timer := timerStop state.timer }
  | .expired => { state with timer := timerExpired state.timer state.time }
  | .tick => { state with time := state.time + 1 }

/-- The state after some events, the latest of them first. -/
def after (start : TimerState) : List TimerEvent → TimerState
  | [] => start
  | event :: earlier => (start.after earlier).step event

/-- How often `timerExpired` has returned 1 since the latest arming. -/
def firings (start : TimerState) : List TimerEvent → Nat
  | [] => 0
  | event :: earlier =>
      match event with
      | .set _ => 0
      | .restart => 0
      | .expired => start.firings earlier + if (start.after earlier).due then 1 else 0
      | _ => start.firings earlier

theorem firings_expired (start : TimerState) (earlier : List TimerEvent) :
    start.firings (.expired :: earlier) =
      start.firings earlier + if (start.after earlier).due then 1 else 0 := rfl

def intervalSet (start : TimerState) : List TimerEvent → Word
  | [] => start.timer.interval
  | .set interval :: _ => interval
  | _ :: earlier => start.intervalSet earlier

end TimerState

/-- The ticks since the timer was armed, unless it has been stopped since. -/
def sinceArmed : List TimerEvent → Option Nat
  | [] => none
  | event :: earlier =>
      match event with
      | .set _ => some 0
      | .restart => some 0
      | .stop => none
      | .expired => sinceArmed earlier
      | .tick => (sinceArmed earlier).map (· + 1)

structure TimerState.Tracks (start : TimerState) (events : List TimerEvent) : Prop where
  interval : (start.after events).timer.interval = start.intervalSet events
  armed : (start.after events).timer.active ≠ 0 →
    (sinceArmed events).isSome = true ∧ start.firings events = 0
  time : ∀ ticks, sinceArmed events = some ticks →
    (start.after events).time = (start.after events).timer.start + BitVec.ofNat 32 ticks
  once : start.firings events ≤ 1

namespace TimerState.Tracks

variable {start : TimerState} {events : List TimerEvent}

theorem arm {event : TimerEvent} (tracks : start.Tracks events)
    (arming : (∃ interval, event = .set interval) ∨ event = .restart) :
    start.Tracks (event :: events) := by
  rcases arming with ⟨interval, rfl⟩ | rfl
  · constructor
    · rfl
    · exact fun _ => ⟨rfl, rfl⟩
    · intro ticks found
      obtain rfl := Option.some.inj found
      exact (BitVec.add_zero _).symm
    · exact Nat.zero_le 1
  · constructor
    · exact tracks.interval
    · exact fun _ => ⟨rfl, rfl⟩
    · intro ticks found
      obtain rfl := Option.some.inj found
      exact (BitVec.add_zero _).symm
    · exact Nat.zero_le 1

theorem stop (tracks : start.Tracks events) : start.Tracks (.stop :: events) := by
  constructor
  · exact tracks.interval
  · exact fun running => absurd rfl running
  · exact fun _ found => by cases found
  · exact tracks.once

theorem tick (tracks : start.Tracks events) : start.Tracks (.tick :: events) := by
  constructor
  · exact tracks.interval
  · intro running
    obtain ⟨armed, none⟩ := tracks.armed running
    exact ⟨Option.isSome_map.trans armed, none⟩
  · intro ticks found
    obtain ⟨earlier, before, rfl⟩ := Option.map_eq_some_iff.mp found
    have shown := tracks.time earlier before
    simp only [after, step, shown, BitVec.ofNat_add, BitVec.add_assoc]
    rfl
  · exact tracks.once

theorem expired (tracks : start.Tracks events) : start.Tracks (.expired :: events) := by
  cases due : (start.after events).due with
  | false =>
      have same : start.after (.expired :: events) = start.after events :=
        congrArg (fun timer => { start.after events with timer }) (timerExpired_of_not_due due)
      have quiet : start.firings (.expired :: events) = start.firings events := by
        rw [firings_expired, due]
        rfl
      constructor
      · rw [same]
        exact tracks.interval
      · rw [same, quiet]
        exact tracks.armed
      · rw [same]
        exact tracks.time
      · rw [quiet]
        exact tracks.once
  | true =>
      have fired : start.after (.expired :: events) =
          { start.after events with timer := { (start.after events).timer with active := 0 } } :=
        congrArg (fun timer => { start.after events with timer }) (if_pos due)
      have unfired := (tracks.armed (active_of_timerDue due)).2
      constructor
      · rw [fired]
        exact tracks.interval
      · rw [fired]
        exact fun running => absurd rfl running
      · rw [fired]
        exact tracks.time
      · rw [firings_expired, due, unfired]
        exact Nat.le_refl 1

end TimerState.Tracks

theorem TimerState.tracks (start : TimerState) (inactive : start.timer.active = 0)
    (events : List TimerEvent) : start.Tracks events := by
  induction events with
  | nil =>
      constructor
      · rfl
      · exact fun running => absurd inactive running
      · exact fun _ found => by cases found
      · exact Nat.zero_le 1
  | cons event earlier ih =>
      cases event with
      | set interval => exact ih.arm (.inl ⟨interval, rfl⟩)
      | restart => exact ih.arm (.inr rfl)
      | stop => exact ih.stop
      | expired => exact ih.expired
      | tick => exact ih.tick

/-- In every run of a timer that is inactive at first: `timerExpired` returns 1
only on a timer that is armed, at least the interval after it was armed; at most
once for each arming; and whenever it is asked while the timer is active, more
than the interval and fewer than 2^32 ticks after the arming. -/
theorem timer_fires_once_when_due (start : TimerState) (inactive : start.timer.active = 0)
    (events : List TimerEvent) :
    ((start.after events).due = true → ∃ ticks, sinceArmed events = some ticks ∧
      (start.intervalSet events).toNat ≤ ticks) ∧
    start.firings events ≤ 1 ∧
    ∀ ticks, (start.after events).timer.active ≠ 0 → sinceArmed events = some ticks →
      (start.intervalSet events).toNat < ticks → ticks < 2 ^ 32 →
      (start.after events).due = true := by
  have tracks := start.tracks inactive events
  refine ⟨fun due => ?_, tracks.once, fun ticks active armed late bounded => ?_⟩
  · have active := active_of_timerDue due
    obtain ⟨ticks, armed⟩ := Option.isSome_iff_exists.mp (tracks.armed active).1
    have passed := interval_le_of_timerDue active (tracks.time ticks armed) due
    rw [tracks.interval] at passed
    exact ⟨ticks, armed, passed⟩
  · rw [← tracks.interval] at late
    exact timerDue_of_elapsed active (tracks.time ticks armed) late bounded

/-- A timer is set to 5 ticks just before the clock wraps and asked 6 ticks later. -/
theorem timer_fires_once_wrapped :
    let start : TimerState := ⟨⟨0, 0, 0⟩, 0xFFFFFFFE⟩
    let events := .replicate 6 .tick ++ [.set 5]
    start.timer.active = 0 ∧ (start.after events).due = true ∧
      ∃ ticks, sinceArmed events = some ticks ∧ (start.intervalSet events).toNat ≤ ticks := by
  intro start events
  have due : (start.after events).due = true := by decide
  exact ⟨rfl, due, (timer_fires_once_when_due start rfl events).1 due⟩

/-- The clock runs past zero between the start value and the reading. -/
def clockWraps (start elapsed : Word) : Prop := 2 ^ 32 ≤ start.toNat + elapsed.toNat

instance (start elapsed : Word) : Decidable (clockWraps start elapsed) :=
  inferInstanceAs (Decidable (2 ^ 32 ≤ start.toNat + elapsed.toNat))

theorem start_lt_iff (start elapsed : Word) :
    start < start + elapsed ↔ ¬ clockWraps start elapsed ∧ elapsed ≠ 0 := by
  have first := start.isLt
  have second := elapsed.isLt
  rw [BitVec.lt_def, BitVec.toNat_add, clockWraps, ne_eq, ← BitVec.toNat_inj]
  show _ ↔ _ ∧ ¬ elapsed.toNat = 0
  omega

/-- Exactly at the interval the verdict is 1 only if the clock has wrapped. -/
theorem timerDue_elapsed_iff {timer : Timer} (active : timer.active ≠ 0) (elapsed : Word) :
    timerDue timer (timer.start + elapsed) = true ↔ timer.interval < elapsed ∨
      timer.interval = elapsed ∧ (clockWraps timer.start elapsed ∨ elapsed = 0) := by
  rw [timerDue_iff active, elapsed_of_time rfl]
  split
  · next above =>
      obtain ⟨unwrapped, positive⟩ := (start_lt_iff _ _).mp above
      refine ⟨.inl, fun cases => ?_⟩
      rcases cases with late | ⟨_, wrapped | zero⟩
      · exact late
      · exact absurd wrapped unwrapped
      · exact absurd zero positive
  · next below =>
      have wrapped : clockWraps timer.start elapsed ∨ elapsed = 0 := by
        by_cases zero : elapsed = 0
        · exact .inr zero
        · refine .inl (Decidable.byContradiction fun unwrapped => ?_)
          exact below ((start_lt_iff _ _).mpr ⟨unwrapped, zero⟩)
      rw [and_iff_left wrapped, BitVec.le_def, BitVec.lt_def, ← BitVec.toNat_inj]
      exact Nat.le_iff_lt_or_eq

theorem not_clockWraps_zero (start : Word) : ¬ clockWraps start 0#32 := by
  have bounded := start.isLt
  rw [clockWraps]
  show ¬ 2 ^ 32 ≤ start.toNat + 0
  omega

/-- The verdict, and with it the flag left in the timer, is the same at two
positions of the clock exactly if the elapsed time is not the interval itself or
the clock wraps at both positions or at neither. -/
theorem timerExpired_shift_iff (active : Byte) (running : active ≠ 0)
    (start interval elapsed shift : Word) :
    timerDue ⟨active, start, interval⟩ (start + elapsed) =
        timerDue ⟨active, start + shift, interval⟩ (start + shift + elapsed) ∧
      (timerExpired ⟨active, start, interval⟩ (start + elapsed)).active =
        (timerExpired ⟨active, start + shift, interval⟩ (start + shift + elapsed)).active ↔
    elapsed ≠ interval ∨ (clockWraps start elapsed ↔ clockWraps (start + shift) elapsed) := by
  have verdict (position : Word) :
      timerDue ⟨active, position, interval⟩ (position + elapsed) = true ↔ interval < elapsed ∨
        interval = elapsed ∧ (clockWraps position elapsed ∨ elapsed = 0) :=
    timerDue_elapsed_iff running elapsed
  have flag (same : timerDue ⟨active, start, interval⟩ (start + elapsed) =
      timerDue ⟨active, start + shift, interval⟩ (start + shift + elapsed)) :
      (timerExpired ⟨active, start, interval⟩ (start + elapsed)).active =
        (timerExpired ⟨active, start + shift, interval⟩ (start + shift + elapsed)).active := by
    unfold timerExpired
    rw [same]
    split <;> rfl
  rw [and_iff_left_of_imp flag, Bool.eq_iff_iff, verdict, verdict]
  by_cases exact : interval = elapsed
  · subst exact
    by_cases zero : interval = 0#32
    · simp [zero, not_clockWraps_zero]
    · simp [zero]
  · have different : elapsed ≠ interval := fun same => exact same.symm
    simp [exact, different]

theorem timerExpired_shift_past_zero :
    timerDue ⟨1, 0, 5⟩ (0 + 6) = timerDue ⟨1, 0 + 0xFFFFFFFE, 5⟩ (0 + 0xFFFFFFFE + 6) ∧
      (timerExpired ⟨1, 0, 5⟩ (0 + 6)).active =
        (timerExpired ⟨1, 0 + 0xFFFFFFFE, 5⟩ (0 + 0xFFFFFFFE + 6)).active :=
  (timerExpired_shift_iff 1 (by decide) 0 5 6 0xFFFFFFFE).mpr (.inl (by decide))

/-- Five ticks after it was set to five ticks, a timer is due only if the clock
has wrapped. -/
theorem timerExpired_depends_on_clock :
    ¬ ∀ (active : Byte) (start interval elapsed shift : Word), active ≠ 0 →
      timerDue ⟨active, start, interval⟩ (start + elapsed) =
        timerDue ⟨active, start + shift, interval⟩ (start + shift + elapsed) := by
  intro same
  have verdicts := same 1 0 5 5 0xFFFFFFFE (by decide)
  revert verdicts
  decide

end MiniMiner
