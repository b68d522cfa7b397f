import MiniMiner.AvalonBTC.CommandStream
import MiniMiner.AvalonBTC.PrecalcProperties

/-! The task unit. From the call of `asicPrecalc` of one `'W'` to the next `'W'`
it holds the payload that was taken from the ring and the words computed from it. -/

set_option autoImplicit false

namespace MiniMiner.AvalonBTC

open LittleEndian Preemption Preemption.Program

/-- The task was filled from these bytes. -/
structure WorkUnit.Holds (task : WorkUnit) (bytes : List Byte) : Prop where
  stored : storedBytes task.midstate ++ storedBytes task.data = bytes
  precalc : ∀ old, task.precalc = asicPrecalc task.midstate task.data old

def Stored (device : Device) (history : Past) : Prop :=
  ∀ bytes, loaded history = some bytes → device.worktask.Holds bytes

def tasking : Setting Point Device Interrupt Call where
  machine := firmware
  allowed := fun _ _ _ => True
  always := Stored

/-- Within the first fill loop. -/
def FillingMidstate (count : Nat) (device : Device) (history : Past) : Prop :=
  loaded history = none ∧
    payload history = (storedBytes device.worktask.midstate).take count

/-- Within the second fill loop. -/
def FillingData (count : Nat) (device : Device) (history : Past) : Prop :=
  loaded history = none ∧
    payload history = storedBytes device.worktask.midstate ++
      (storedBytes device.worktask.data).take count

theorem loaded_silent {point : Point} (silent : point.silent = true) (before after : Device)
    (history : Past) : loaded (⟨.main point, before, after⟩ :: history) = loaded history := by
  cases point <;> first | rfl | cases silent

theorem worktask_handled {source : Interrupt} {before after : Device}
    (handled : handler source before = some after) : after.worktask = before.worktask := by
  rcases handler_eq_some handled with ⟨_, rfl⟩ | ⟨_, _, _, _, rfl⟩ <;> rfl

theorem steady_stored : tasking.Steady Stored where
  stable := by
    intro source before after history handled _ stored bytes found
    rw [worktask_handled handled]
    exact stored bytes found
  always := fun _ _ stored => stored

theorem steady_fillingMidstate (count : Nat) : tasking.Steady (FillingMidstate count) where
  stable := by
    intro source before after history handled _ filling
    unfold FillingMidstate
    rw [worktask_handled handled]
    exact filling
  always := by
    intro device history filling bytes found
    rw [filling.1] at found
    cases found

theorem steady_fillingData (count : Nat) : tasking.Steady (FillingData count) where
  stable := by
    intro source before after history handled _ filling
    unfold FillingData
    rw [worktask_handled handled]
    exact filling
  always := by
    intro device history filling bytes found
    rw [filling.1] at found
    cases found

private theorem take_succ_set {bytes : List Byte} {index : Nat} (byte : Byte)
    (inside : index < bytes.length) :
    (bytes.set index byte).take (index + 1) = bytes.take index ++ [byte] := by
  rw [List.take_add_one, List.take_set_of_le (Nat.le_refl index),
    List.getElem?_set_self inside]
  rfl

theorem fillMidstate_triple (index : Fin 32) :
    tasking.Triple (FillingMidstate index)
      (assign (.fillMidstate index) fun device =>
        { device with
          buffer := device.buffer.remove
          worktask := { device.worktask with
            midstate := pokeByte device.worktask.midstate index device.buffer.peek } })
      fun _ => FillingMidstate (index + 1) := by
  refine .assign (steady_fillingMidstate _) (steady_fillingMidstate _) ?_
  rintro device history ⟨unfinished, filled⟩ _
  refine ⟨unfinished, ?_⟩
  rw [storedBytes_pokeByte, take_succ_set _ (by simp), ← filled]
  rfl

theorem fillData_triple (index : Fin 12) :
    tasking.Triple (FillingData index)
      (assign (.fillData index) fun device =>
        { device with
          buffer := device.buffer.remove
          worktask := { device.worktask with
            data := pokeByte device.worktask.data index device.buffer.peek } })
      fun _ => FillingData (index + 1) := by
  refine .assign (steady_fillingData _) (steady_fillingData _) ?_
  rintro device history ⟨unfinished, filled⟩ _
  refine ⟨unfinished, ?_⟩
  rw [storedBytes_pokeByte, take_succ_set _ (by simp), ← List.append_assoc, ← filled]
  rfl

theorem fillWork_stored_triple :
    tasking.Triple (FillingMidstate 0) fillWork fun _ => FillingData 12 := by
  refine (Setting.Triple.eachIndex FillingMidstate (steady_fillingMidstate _)
    fillMidstate_triple).seq fun _ => ?_
  refine (Setting.Triple.eachIndex FillingData (steady_fillingData _) fillData_triple).conseq
    ?_ fun _ _ _ filling => filling
  rintro device history ⟨unfinished, filled⟩
  refine ⟨unfinished, ?_⟩
  rw [filled, List.take_of_length_le (by simp), List.take_zero, List.append_nil]

theorem keeps_stored {point : Point} {before after : Device} (silent : point.silent = true)
    (same : after.worktask = before.worktask) : tasking.Keeps Stored point before after := by
  intro history _ stored bytes found
  rw [loaded_silent silent] at found
  rw [same]
  exact stored bytes found

theorem coversCaller_stored (caller : Caller) : CoversCaller (tasking.Keeps Stored) caller :=
  coversCaller_of_calm (fun _ _ _ calm => keeps_stored calm.silent calm.worktask) caller

theorem commandW_stored_triple : tasking.Triple Stored commandW fun _ => Stored := by
  have removed : tasking.Triple Stored (removeCommand .W) fun _ => FillingMidstate 0 :=
    .assign steady_stored (steady_fillingMidstate 0) fun _ _ _ _ => ⟨rfl, rfl⟩
  refine removed.seq fun _ => fillWork_stored_triple.seq fun _ => ?_
  refine .seq (.assign (steady_fillingData _) steady_stored ?_) fun _ =>
    .kept steady_stored (startWork_within (coversCaller_stored _) (fun _ => keeps_stored rfl rfl)
      (fun _ _ => keeps_stored rfl rfl) fun _ _ => keeps_stored rfl rfl)
  rintro device history ⟨unfinished, filled⟩ _ bytes found
  obtain rfl := Option.some.inj found
  refine ⟨?_, fun old => asicPrecalc_overwrites _ _ _ _⟩
  rw [filled, List.take_of_length_le (by simp)]

theorem loaded_removeCommand {command : Command} (notW : command ≠ .W)
    (before after : Device) (history : Past) :
    loaded (⟨.main (.removeCommand command), before, after⟩ :: history) = loaded history := by
  cases command <;> first | rfl | exact absurd rfl notW

theorem boundary_stored : Boundary tasking Stored where
  steady := steady_stored
  call := fun _ _ _ _ stored => stored
  receive := fun _ _ => keeps_stored rfl rfl
  getCount := fun _ => keeps_stored rfl rfl
  peekCommand := fun _ => keeps_stored rfl rfl
  single := by
    intro count command notW
    refine .kept steady_stored (dispatch_within (fun _ _ => coversCaller_stored _) ?_
      (fun _ _ => keeps_stored rfl rfl) count notW)
    intro command notW device history _ stored bytes found
    rw [loaded_removeCommand notW] at found
    exact stored bytes found
  work := commandW_stored_triple
  flush := fun results => .kept steady_stored (flushReplies_within (coversFlush_of_calm
    fun _ _ _ calm => keeps_stored calm.silent calm.worktask) results)
  service := fun _ _ _ stored => Setting.Triple.kept steady_stored (appService_within
    (coversService_of_calm fun _ _ _ calm => keeps_stored calm.silent calm.worktask)) _ _ stored

/-- In every state of every run the task holds the payload last loaded. -/
theorem stored_run (start : Device) (choices : Choices) :
    Stored (firmware.run choices (.start start)).state
      (firmware.run choices (.start start)).history := by
  refine tasking.run_always steady_stored (fun _ found => by cases found)
    boundary_stored.calls choices ?_
  exact Meets.trivial _

end MiniMiner.AvalonBTC
