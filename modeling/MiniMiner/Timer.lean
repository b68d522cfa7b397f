import MiniMiner.LittleEndian

/-! The polled timers of `timer.c`. The clock value is what `clockGetTime`
returned inside the call; it is the only input that an interrupt can change. -/

set_option autoImplicit false

namespace MiniMiner

open LittleEndian

structure Timer where
  active : Byte
  start : Word
  interval : Word
  deriving DecidableEq

def timerSet (_ : Timer) (interval : Word) (time : Word) : Timer :=
  { active := 1, start := time, interval := interval }

def timerStop (timer : Timer) : Timer :=
  { timer with active := 0 }

def timerReset (timer : Timer) : Timer :=
  { timer with active := 1, start := timer.start + timer.interval }

def timerRestart (timer : Timer) (time : Word) : Timer :=
  { timer with active := 1, start := time }

/-- The verdict of `timerExpired`. The two comparisons differ: `>` while the
clock is above the start value, `>=` after it has wrapped. -/
def timerDue (timer : Timer) (time : Word) : Bool :=
  if timer.active = 0 then false
  else if timer.start < time then timer.interval < time - timer.start
  else timer.interval ≤ ~~~timer.start + time + 1

/-- The state `timerExpired` leaves: a timer that has expired is inactive. -/
def timerExpired (timer : Timer) (time : Word) : Timer :=
  if timerDue timer time then { timer with active := 0 } else timer

theorem elapsed_of_time {time start elapsed : Word} (shown : time = start + elapsed) :
    time - start = elapsed := by
  rw [shown, BitVec.add_comm, BitVec.add_sub_cancel]

/-- Both branches of `timerExpired` look at the clock minus the start value. -/
theorem timerDue_iff {timer : Timer} (active : timer.active ≠ 0) (time : Word) :
    timerDue timer time = true ↔
      if timer.start < time then timer.interval < time - timer.start
      else timer.interval ≤ time - timer.start := by
  have wrapped : ~~~timer.start + time + 1 = time - timer.start := by
    rw [BitVec.sub_eq_add_neg, BitVec.neg_eq_not_add, BitVec.add_comm time, BitVec.add_assoc,
      BitVec.add_comm time 1, ← BitVec.add_assoc]
    rfl
  unfold timerDue
  rw [if_neg active, wrapped]
  split
  · exact decide_eq_true_iff
  · exact decide_eq_true_iff

/-- `elapsed` ticks of true time after the start value was taken from the clock,
a timer is due at the latest when they are more than the interval, as long as the
clock has not come round. -/
theorem timerDue_of_elapsed {timer : Timer} {time : Word} {elapsed : Nat}
    (active : timer.active ≠ 0) (shown : time = timer.start + BitVec.ofNat 32 elapsed)
    (late : timer.interval.toNat < elapsed) (bounded : elapsed < 2 ^ 32) :
    timerDue timer time = true := by
  have above : timer.interval < time - timer.start := by
    rw [elapsed_of_time shown, BitVec.lt_def, BitVec.toNat_ofNat, Nat.mod_eq_of_lt bounded]
    exact late
  rw [timerDue_iff active]
  split
  · exact above
  · exact BitVec.le_of_lt above

/-- It is never due before the interval has passed. -/
theorem interval_le_of_timerDue {timer : Timer} {time : Word} {elapsed : Nat}
    (active : timer.active ≠ 0) (shown : time = timer.start + BitVec.ofNat 32 elapsed)
    (due : timerDue timer time = true) : timer.interval.toNat ≤ elapsed := by
  rw [timerDue_iff active, elapsed_of_time shown] at due
  have reached : timer.interval ≤ BitVec.ofNat 32 elapsed := by
    split at due
    · exact BitVec.le_of_lt due
    · exact due
  rw [BitVec.le_def, BitVec.toNat_ofNat] at reached
  exact Nat.le_trans reached (Nat.mod_le _ _)

theorem active_of_timerDue {timer : Timer} {time : Word} (due : timerDue timer time = true) :
    timer.active ≠ 0 := by
  intro stopped
  unfold timerDue at due
  rw [if_pos stopped] at due
  cases due

theorem timerExpired_of_active {timer : Timer} {time : Word}
    (active : (timerExpired timer time).active ≠ 0) : timerExpired timer time = timer := by
  unfold timerExpired at active ⊢
  split at active
  · exact absurd rfl active
  · next running => rw [if_neg running]

theorem timerExpired_of_not_due {timer : Timer} {time : Word}
    (running : timerDue timer time = false) : timerExpired timer time = timer := by
  unfold timerExpired
  rw [running]
  rfl

end MiniMiner
