import MiniMiner.AvalonBTC.CommandStream

/-! The work timer against the true time. A watch on the history counts the clock
interrupts since the latest `'W'` has set the timer; the 32-bit clock and the
timer agree with it in every state of every run. -/

set_option autoImplicit false

namespace MiniMiner.AvalonBTC

open LittleEndian Preemption Preemption.Program

/-- The clock value read by `timerSet` in the latest `'W'`, the ticks since, and
whether `appService` has seen more than 16000 of them (and fewer than 2^32). -/
structure Watch where
  armed : Option Word
  elapsed : Nat
  overdue : Bool
  deriving DecidableEq

def watch : Past → Watch
  | [] => { armed := none, elapsed := 0, overdue := false }
  | transition :: earlier =>
      match transition.label with
      | .interrupt .tick => { watch earlier with elapsed := (watch earlier).elapsed + 1 }
      | .main (.removeCommand .W) => { watch earlier with armed := none }
      | .main .timerSet =>
          { armed := some transition.source.time, elapsed := 0, overdue := false }
      | .main .timerExpired =>
          { watch earlier with
            overdue := (watch earlier).overdue ||
              decide (16000 < (watch earlier).elapsed ∧ (watch earlier).elapsed < 2 ^ 32) }
      | _ => watch earlier

/-- Statements that neither the watch nor the observer of the payload sees. -/
def Point.unwatched : Point → Bool
  | .removeCommand .W => false
  | .precalc => false
  | .timerSet => false
  | .timerExpired => false
  | _ => true

theorem watch_unwatched {point : Point} (unwatched : point.unwatched = true)
    (before after : Device) (history : Past) :
    watch (⟨.main point, before, after⟩ :: history) = watch history := by
  cases point with
  | removeCommand command => cases command <;> first | rfl | cases unwatched
  | _ => first | rfl | cases unwatched

theorem loaded_unwatched {point : Point} (unwatched : point.unwatched = true)
    (before after : Device) (history : Past) :
    loaded (⟨.main point, before, after⟩ :: history) = loaded history := by
  cases point with
  | removeCommand command => cases command <;> first | rfl | cases unwatched
  | _ => first | rfl | cases unwatched

/-- The clock shows the time of arming and the ticks since, modulo 2^32, and a
running timer is the one that was armed. -/
structure Clocked (device : Device) (book : Watch) : Prop where
  time : ∀ start, book.armed = some start →
    device.time = start + BitVec.ofNat 32 book.elapsed
  timer : ∀ start, book.armed = some start → device.workTimer.active ≠ 0 →
    device.workTimer.start = start ∧ device.workTimer.interval = 16000

theorem timerDue_of_overdue {device : Device} {book : Watch} (clocked : Clocked device book)
    (active : device.workTimer.active ≠ 0) {start : Word} (armed : book.armed = some start)
    (late : 16000 < book.elapsed) (bounded : book.elapsed < 2 ^ 32) :
    timerDue device.workTimer device.time = true := by
  obtain ⟨sameStart, interval⟩ := clocked.timer start armed active
  have shown := clocked.time start armed
  rw [← sameStart] at shown
  refine timerDue_of_elapsed active shown ?_ bounded
  rw [interval]
  exact late

theorem not_timerDue_of_early {device : Device} {book : Watch} (clocked : Clocked device book)
    {start : Word} (armed : book.armed = some start) (early : book.elapsed < 16000) :
    timerDue device.workTimer device.time = false := by
  refine Bool.eq_false_iff.mpr fun due => ?_
  have active := active_of_timerDue due
  obtain ⟨sameStart, interval⟩ := clocked.timer start armed active
  have shown := clocked.time start armed
  rw [← sameStart] at shown
  have passed := interval_le_of_timerDue active shown due
  rw [interval] at passed
  exact Nat.not_lt_of_le passed early

def timekeeping : Setting Point Device Interrupt Call where
  machine := firmware
  allowed := fun _ _ _ => True
  always := fun device history => Clocked device (watch history)

/-- The clock is right, and the device stands in this relation to the watch and
to the payload of the latest `'W'`. -/
def Watching (relation : Device → Watch → Option (List Byte) → Prop) (device : Device)
    (history : Past) : Prop :=
  Clocked device (watch history) ∧ relation device (watch history) (loaded history)

/-- What an interrupt leaves alone. -/
structure Untouched (before after : Device) : Prop where
  state : after.state = before.state
  workTimer : after.workTimer = before.workTimer
  portd : after.portd = before.portd
  ddrd : after.ddrd = before.ddrd

theorem Clocked.tick {device : Device} {book : Watch} (clocked : Clocked device book) :
    Clocked { device with time := device.time + 1 } { book with elapsed := book.elapsed + 1 } where
  time := by
    intro start armed
    have shown := clocked.time start armed
    simp only [shown, BitVec.ofNat_add, BitVec.add_assoc]
    rfl
  timer := clocked.timer

theorem Clocked.step {before after : Device} {book : Watch} (clocked : Clocked before book)
    (time : after.time = before.time)
    (timer : after.workTimer.active ≠ 0 → after.workTimer = before.workTimer) :
    Clocked after book where
  time := by
    rw [time]
    exact clocked.time
  timer := by
    intro start armed active
    have same := timer active
    rw [same] at active ⊢
    exact clocked.timer start armed active

theorem steady_watching {relation : Device → Watch → Option (List Byte) → Prop}
    (untouched : ∀ before after book load, Untouched before after →
      relation before book load → relation after book load)
    (ticked : ∀ device book load, relation device book load →
      relation device { book with elapsed := book.elapsed + 1 } load) :
    timekeeping.Steady (Watching relation) where
  stable := by
    intro source before after history handled _ watching
    obtain ⟨clocked, related⟩ := watching
    rcases handler_eq_some handled with ⟨rfl, rfl⟩ | ⟨spdr, polls, rfl, _, rfl⟩
    · exact ⟨clocked.tick, untouched before _ _ _ ⟨rfl, rfl, rfl, rfl⟩ (ticked _ _ _ related)⟩
    · exact ⟨clocked.step rfl fun _ => rfl, untouched before _ _ _ ⟨rfl, rfl, rfl, rfl⟩ related⟩
  always := fun _ _ watching => watching.1

theorem Watching.step {relation other : Device → Watch → Option (List Byte) → Prop}
    {point : Point} {before after : Device} {history : Past}
    (watching : Watching relation before history) (unwatched : point.unwatched = true)
    (time : after.time = before.time)
    (timer : after.workTimer.active ≠ 0 → after.workTimer = before.workTimer)
    (step : ∀ book load, relation before book load → other after book load) :
    Watching other after (⟨.main point, before, after⟩ :: history) := by
  obtain ⟨clocked, related⟩ := watching
  unfold Watching
  rw [watch_unwatched unwatched, loaded_unwatched unwatched]
  exact ⟨clocked.step time timer, step _ _ related⟩

end MiniMiner.AvalonBTC
