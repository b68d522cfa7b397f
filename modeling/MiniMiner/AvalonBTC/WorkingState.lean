import MiniMiner.AvalonBTC.WorkTimer
import MiniMiner.AvalonBTC.Worktask

/-! What `STATE_WORKING` means between two calls: the nonce is cleared, the timer
runs, the task is loaded and the ASIC is out of reset; and the state does not
outlive the deadline. -/

set_option autoImplicit false

namespace MiniMiner.AvalonBTC

open LittleEndian Preemption Preemption.Program

/-- A task is being worked on. -/
structure InProgress (device : Device) (book : Watch) (load : Option (List Byte)) : Prop where
  nonceValid : device.state.nonceValid = 0
  nonce : device.state.nonce = 0
  active : device.workTimer.active = 1
  armed : book.armed.isSome = true
  onTime : book.overdue = false
  loaded : load.isSome = true
  resetHigh : device.portd &&& resetPin ≠ 0
  spiEnabled : device.ddrd &&& spiEnablePin ≠ 0

def Working (device : Device) (book : Watch) (load : Option (List Byte)) : Prop :=
  device.state.state = stateWorking → InProgress device book load

def Anything (_ : Device) (_ : Watch) (_ : Option (List Byte)) : Prop := True

def Stopped (device : Device) (_ : Watch) (_ : Option (List Byte)) : Prop :=
  device.state.state ≠ stateWorking

theorem InProgress.untouched {before after : Device} {book : Watch} {load : Option (List Byte)}
    (progress : InProgress before book load) (state : after.state = before.state)
    (workTimer : after.workTimer = before.workTimer)
    (reset : after.portd &&& resetPin = before.portd &&& resetPin)
    (ddrd : after.ddrd = before.ddrd) : InProgress after book load := by
  obtain ⟨nonceValid, nonce, active, armed, onTime, loaded, resetHigh, spiEnabled⟩ := progress
  refine ⟨?_, ?_, ?_, armed, onTime, loaded, ?_, ?_⟩
  · rw [state, nonceValid]
  · rw [state, nonce]
  · rw [workTimer, active]
  · rw [reset]
    exact resetHigh
  · rw [ddrd]
    exact spiEnabled

theorem Working.untouched {before after : Device} {book : Watch} {load : Option (List Byte)}
    (working : Working before book load) (state : after.state = before.state)
    (workTimer : after.workTimer = before.workTimer)
    (reset : after.portd &&& resetPin = before.portd &&& resetPin)
    (ddrd : after.ddrd = before.ddrd) : Working after book load := by
  intro isWorking
  rw [state] at isWorking
  exact (working isWorking).untouched state workTimer reset ddrd

theorem steady_working : timekeeping.Steady (Watching Working) := by
  refine steady_watching (fun before after _ _ same working => ?_) fun _ _ _ working isWorking => ?_
  · exact working.untouched same.state same.workTimer (by rw [same.portd]) same.ddrd
  · obtain ⟨nonceValid, nonce, active, armed, onTime, loaded, resetHigh, spiEnabled⟩ :=
      working isWorking
    exact ⟨nonceValid, nonce, active, armed, onTime, loaded, resetHigh, spiEnabled⟩

theorem steady_anything_watched : timekeeping.Steady (Watching Anything) :=
  steady_watching (fun _ _ _ _ _ _ => trivial) fun _ _ _ _ => trivial

theorem steady_stopped : timekeeping.Steady (Watching Stopped) := by
  refine steady_watching (fun before after _ _ same stopped => ?_) fun _ _ _ stopped => stopped
  unfold Stopped
  rw [same.state]
  exact stopped

theorem Watching.of_stopped {device : Device} {history : Past}
    (stopped : Watching Stopped device history) : Watching Working device history :=
  ⟨stopped.1, fun isWorking => absurd isWorking stopped.2⟩

theorem Watching.forget {relation : Device → Watch → Option (List Byte) → Prop}
    {device : Device} {history : Past} (watching : Watching relation device history) :
    Watching Anything device history :=
  ⟨watching.1, trivial⟩

theorem keeps_anything {point : Point} {before after : Device}
    (unwatched : point.unwatched = true) (time : after.time = before.time)
    (timer : after.workTimer.active ≠ 0 → after.workTimer = before.workTimer) :
    timekeeping.Keeps (Watching Anything) point before after :=
  fun _ _ watching => watching.step unwatched time timer fun _ _ _ => trivial

theorem coversCaller_anything (caller : Caller) :
    CoversCaller (timekeeping.Keeps (Watching Anything)) caller where
  reply := fun _ _ _ => keeps_anything rfl rfl fun _ => rfl
  asic :=
    { clearReportCount := fun _ _ => keeps_anything rfl rfl fun _ => rfl
      clearReportValid := fun _ _ => keeps_anything rfl rfl fun _ => rfl
      resetLow := fun _ => keeps_anything rfl rfl fun _ => rfl
      resetHigh := fun _ => keeps_anything rfl rfl fun _ => rfl
      disableSpi := fun _ => keeps_anything rfl rfl fun _ => rfl
      enableSpi := fun _ => keeps_anything rfl rfl fun _ => rfl }
  state :=
    { setState := fun _ _ => keeps_anything rfl rfl fun _ => rfl
      setNonceValid := fun _ _ => keeps_anything rfl rfl fun _ => rfl
      setNonce := fun _ _ => keeps_anything rfl rfl fun _ => rfl }

theorem keeps_stopped {point : Point} {before after : Device}
    (unwatched : point.unwatched = true) (time : after.time = before.time)
    (timer : after.workTimer.active ≠ 0 → after.workTimer = before.workTimer)
    (state : after.state.state = before.state.state) :
    timekeeping.Keeps (Watching Stopped) point before after := by
  intro history _ watching
  refine watching.step unwatched time timer fun _ _ stopped => ?_
  unfold Stopped
  rw [state]
  exact stopped

theorem coversAsic_stopped (caller : Caller) :
    CoversAsic (timekeeping.Keeps (Watching Stopped)) caller where
  clearReportCount := fun _ _ => keeps_stopped rfl rfl (fun _ => rfl) rfl
  clearReportValid := fun _ _ => keeps_stopped rfl rfl (fun _ => rfl) rfl
  resetLow := fun _ => keeps_stopped rfl rfl (fun _ => rfl) rfl
  resetHigh := fun _ => keeps_stopped rfl rfl (fun _ => rfl) rfl
  disableSpi := fun _ => keeps_stopped rfl rfl (fun _ => rfl) rfl
  enableSpi := fun _ => keeps_stopped rfl rfl (fun _ => rfl) rfl

theorem coversReply_stopped (caller : Caller) :
    CoversReply (timekeeping.Keeps (Watching Stopped)) caller :=
  fun _ _ _ => keeps_stopped rfl rfl (fun _ => rfl) rfl

theorem setState_reset_triple (caller : Caller) :
    timekeeping.Triple (Watching Anything) (setState caller stateReset)
      fun _ => Watching Stopped :=
  .assign steady_anything_watched steady_stopped fun _ _ watching _ =>
    watching.step rfl rfl (fun _ => rfl) fun _ _ _ => reset_ne_working

theorem commandR_working_triple :
    timekeeping.Triple (Watching Working) commandR fun _ => Watching Working := by
  have covers := coversCaller_anything (.command .R)
  have removed : timekeeping.Triple (Watching Working) (removeCommand .R)
      fun _ => Watching Anything :=
    .assign steady_working steady_anything_watched fun _ _ watching _ =>
      watching.step rfl rfl (fun _ => rfl) fun _ _ _ => trivial
  refine removed.seq fun _ => ?_
  refine .seq (.kept steady_anything_watched (asicReset_within covers.asic)) fun _ => ?_
  refine .seq (.kept steady_anything_watched (asicResetSpi_within covers.asic)) fun _ => ?_
  refine (setState_reset_triple _).seq fun _ => ?_
  exact (Setting.Triple.kept steady_stopped (sendState_within (coversReply_stopped _) _)).conseq
    (fun _ _ stopped => stopped) fun _ _ _ stopped => stopped.of_stopped

theorem commandA_working_triple :
    timekeeping.Triple (Watching Working) commandA fun _ => Watching Working := by
  have removed : timekeeping.Triple (Watching Working) (removeCommand .A)
      fun _ => Watching Anything :=
    .assign steady_working steady_anything_watched fun _ _ watching _ =>
      watching.step rfl rfl (fun _ => rfl) fun _ _ _ => trivial
  refine removed.seq fun _ => (setState_reset_triple _).seq fun _ => ?_
  refine .seq (.kept steady_stopped (asicStop_within (coversAsic_stopped _))) fun _ => ?_
  exact (Setting.Triple.kept steady_stopped (sendState_within (coversReply_stopped _) _)).conseq
    (fun _ _ stopped => stopped) fun _ _ _ stopped => stopped.of_stopped

theorem serviceReport_working_triple :
    timekeeping.Triple (Watching Anything) serviceReport fun _ => Watching Working := by
  have covers := coversCaller_anything .report
  have read : asicGetNonce.Within (timekeeping.Keeps (Watching Anything)) :=
    .bind (clearReport_within covers.asic _) fun _ =>
      .fetch fun _ => keeps_anything rfl rfl fun _ => rfl
  refine .seq (.kept steady_anything_watched read) fun _ => ?_
  refine .seq (.kept steady_anything_watched (.assign fun _ => ?_)) fun _ => ?_
  · exact keeps_anything rfl rfl fun active => absurd rfl active
  refine .seq (.kept steady_anything_watched (asicStop_within covers.asic)) fun _ => ?_
  refine .seq (.kept steady_anything_watched (asicResetSpi_within covers.asic)) fun _ => ?_
  refine (setState_reset_triple _).seq fun _ => Setting.Triple.conseq
    (Setting.Triple.kept steady_stopped ?_) (fun _ _ stopped => stopped)
    fun _ _ _ stopped => stopped.of_stopped
  exact .bind (.assign fun _ => keeps_stopped rfl rfl (fun _ => rfl) rfl) fun _ =>
    .bind (.assign fun _ => keeps_stopped rfl rfl (fun _ => rfl) rfl) fun _ =>
    .bind (.assign fun _ => keeps_stopped rfl rfl (fun _ => rfl) rfl) fun _ =>
    sendState_within (coversReply_stopped _) _

theorem serviceExpiry_working_triple :
    timekeeping.Triple (Watching Anything) serviceExpiry fun _ => Watching Working := by
  have covers := coversCaller_anything .expiry
  refine .seq (.kept steady_anything_watched (asicStop_within covers.asic)) fun _ => ?_
  refine .seq (.kept steady_anything_watched (asicResetSpi_within covers.asic)) fun _ => ?_
  refine (setState_reset_triple _).seq fun _ => Setting.Triple.conseq
    (Setting.Triple.kept steady_stopped ?_) (fun _ _ stopped => stopped)
    fun _ _ _ stopped => stopped.of_stopped
  exact .bind (.assign fun _ => keeps_stopped rfl rfl (fun _ => rfl) rfl) fun _ =>
    .bind (.assign fun _ => keeps_stopped rfl rfl (fun _ => rfl) rfl) fun _ =>
    sendState_within (coversReply_stopped _) _

theorem keeps_working {point : Point} {before after : Device}
    (unwatched : point.unwatched = true) (time : after.time = before.time)
    (state : after.state = before.state) (workTimer : after.workTimer = before.workTimer)
    (reset : after.portd &&& resetPin = before.portd &&& resetPin)
    (ddrd : after.ddrd = before.ddrd) :
    timekeeping.Keeps (Watching Working) point before after :=
  fun _ _ watching => watching.step unwatched time (fun _ => workTimer) fun _ _ working =>
    working.untouched state workTimer reset ddrd

/-- The relation that is left once the timer has been asked. -/
def Unexpired (expired : Bool) (device : Device) (book : Watch) (load : Option (List Byte)) :
    Prop :=
  expired = false → Working device book load

theorem steady_unexpired (expired : Bool) : timekeeping.Steady (Watching (Unexpired expired)) := by
  refine steady_watching (fun _ _ _ _ same unexpired running => ?_)
    fun _ _ _ unexpired running isWorking => ?_
  · exact (unexpired running).untouched same.state same.workTimer (by rw [same.portd]) same.ddrd
  · obtain ⟨nonceValid, nonce, active, armed, onTime, loaded, resetHigh, spiEnabled⟩ :=
      unexpired running isWorking
    exact ⟨nonceValid, nonce, active, armed, onTime, loaded, resetHigh, spiEnabled⟩

/-- A timer that has not expired shows that the deadline has not passed. -/
theorem InProgress.polled {device : Device} {book : Watch} {load : Option (List Byte)}
    (progress : InProgress device book load) (clocked : Clocked device book)
    (running : timerDue device.workTimer device.time = false) :
    decide (16000 < book.elapsed ∧ book.elapsed < 2 ^ 32) = false := by
  refine decide_eq_false fun late => ?_
  obtain ⟨start, armed⟩ := Option.isSome_iff_exists.mp progress.armed
  have active : device.workTimer.active ≠ 0 := by
    rw [progress.active]
    decide
  rw [timerDue_of_overdue clocked active armed late.1 late.2] at running
  cases running

theorem workTimerExpired_triple :
    timekeeping.Triple (Watching Working) workTimerExpired
      fun expired => Watching (Unexpired expired) := by
  refine .statement steady_working steady_unexpired ?_
  intro device history watching _
  obtain ⟨clocked, working⟩ := watching
  have stepped : Clocked
      { device with workTimer := timerExpired device.workTimer device.time } (watch history) :=
    clocked.step rfl timerExpired_of_active
  refine ⟨⟨stepped.time, stepped.timer⟩, fun running isWorking => ?_⟩
  have progress := working isWorking
  have onTime : ((watch history).overdue ||
      decide (16000 < (watch history).elapsed ∧ (watch history).elapsed < 2 ^ 32)) = false := by
    rw [progress.onTime, progress.polled clocked running]
    rfl
  refine ⟨progress.nonceValid, progress.nonce, ?_, progress.armed, onTime, progress.loaded,
    progress.resetHigh, progress.spiEnabled⟩
  have same := timerExpired_of_not_due running
  rw [← progress.active]
  exact congrArg Timer.active same

theorem appService_working_triple :
    timekeeping.Triple (Watching Working) appService fun _ => Watching Working := by
  refine .read (fun _ => True) steady_working (fun _ => keeps_working rfl rfl rfl rfl rfl rfl)
    (fun _ _ _ => trivial) fun valid _ => ?_
  have reported : timekeeping.Triple (Watching Working) (onlyIf (valid ≠ 0) serviceReport)
      fun _ => Watching Working :=
    .onlyIf steady_working
      (fun _ => serviceReport_working_triple.conseq (fun _ _ watching => watching.forget)
        fun _ _ _ watching => watching)
      fun _ _ _ watching => watching
  refine reported.seq fun _ => workTimerExpired_triple.seq fun expired => ?_
  refine .onlyIf steady_working (fun _ => ?_) fun running device history watching => ?_
  · exact serviceExpiry_working_triple.conseq (fun _ _ watching => watching.forget)
      fun _ _ _ watching => watching
  · exact ⟨watching.1, watching.2 (Bool.eq_false_iff.mpr running)⟩

/-- A `'W'` on the way to a complete task: the payload is there, and so much of
the rest. -/
def Preparing (done : State → Byte → Byte → Prop) (device : Device) (_ : Watch)
    (load : Option (List Byte)) : Prop :=
  load.isSome = true ∧ done device.state device.portd device.ddrd

theorem steady_preparing (done : State → Byte → Byte → Prop) :
    timekeeping.Steady (Watching (Preparing done)) := by
  refine steady_watching (fun _ _ _ _ same preparing => ?_) fun _ _ _ preparing => preparing
  unfold Preparing
  rw [same.state, same.portd, same.ddrd]
  exact preparing

theorem keeps_preparing {done : State → Byte → Byte → Prop} {point : Point}
    {before after : Device} (unwatched : point.unwatched = true)
    (time : after.time = before.time) (workTimer : after.workTimer = before.workTimer)
    (step : done before.state before.portd before.ddrd →
      done after.state after.portd after.ddrd) :
    timekeeping.Keeps (Watching (Preparing done)) point before after :=
  fun _ _ watching => watching.step unwatched time (fun _ => workTimer) fun _ _ preparing =>
    ⟨preparing.1, step preparing.2⟩

theorem preparing_triple {done more : State → Byte → Byte → Prop} {point : Point}
    {effect : Device → Device} (unwatched : point.unwatched = true)
    (time : ∀ device, (effect device).time = device.time)
    (workTimer : ∀ device, (effect device).workTimer = device.workTimer)
    (step : ∀ device, done device.state device.portd device.ddrd →
      more (effect device).state (effect device).portd (effect device).ddrd) :
    timekeeping.Triple (Watching (Preparing done)) (assign point effect)
      fun _ => Watching (Preparing more) :=
  .assign (steady_preparing done) (steady_preparing more) fun device _ watching _ =>
    watching.step unwatched (time device) (fun _ => workTimer device) fun _ _ preparing =>
      ⟨preparing.1, step device preparing.2⟩

theorem clearReport_preparing (done : State → Byte → Byte → Prop) (routine : Routine) :
    (clearReport routine (.command .W)).Within
      (timekeeping.Keeps (Watching (Preparing done))) :=
  .bind (.assign fun _ => keeps_preparing rfl rfl rfl id) fun _ =>
    .assign fun _ => keeps_preparing rfl rfl rfl id

def NonceCleared (state : State) (_ _ : Byte) : Prop :=
  state.nonceValid = 0 ∧ state.nonce = 0

def ResetReleased (state : State) (portd ddrd : Byte) : Prop :=
  NonceCleared state portd ddrd ∧ portd &&& resetPin ≠ 0

def Armable (state : State) (portd ddrd : Byte) : Prop :=
  ResetReleased state portd ddrd ∧ ddrd &&& spiEnablePin ≠ 0

theorem asicReset_working_triple :
    timekeeping.Triple (Watching (Preparing NonceCleared)) (asicReset (.command .W))
      fun _ => Watching (Preparing ResetReleased) := by
  refine .seq (.kept (steady_preparing _) (clearReport_preparing _ _)) fun _ => ?_
  refine .seq (.kept (steady_preparing _) (.assign fun _ => ?_)) fun _ => ?_
  · exact keeps_preparing rfl rfl rfl id
  · exact preparing_triple rfl (fun _ => rfl) (fun _ => rfl) fun device cleared =>
      ⟨cleared, set_and_ne_zero device.portd (by decide)⟩

theorem asicResetSpi_working_triple :
    timekeeping.Triple (Watching (Preparing ResetReleased)) (asicResetSpi (.command .W))
      fun _ => Watching (Preparing Armable) := by
  refine .seq (.kept (steady_preparing _) (clearReport_preparing _ _)) fun _ => ?_
  refine .seq (.kept (steady_preparing _) (.assign fun _ => ?_)) fun _ => ?_
  · exact keeps_preparing rfl rfl rfl id
  · exact preparing_triple rfl (fun _ => rfl) (fun _ => rfl) fun device released =>
      ⟨released, set_and_ne_zero device.ddrd (by decide)⟩

theorem timerSet_triple :
    timekeeping.Triple (Watching (Preparing Armable))
      (assign .timerSet fun device =>
        { device with workTimer := timerSet device.workTimer 16000 device.time })
      fun _ => Watching Working := by
  refine .assign (steady_preparing _) steady_working ?_
  intro device history watching _
  obtain ⟨_, loaded, ⟨⟨nonceValid, nonce⟩, resetHigh⟩, spiEnabled⟩ := watching
  refine ⟨⟨?_, ?_⟩, fun _ =>
    ⟨nonceValid, nonce, rfl, rfl, rfl, loaded, resetHigh, spiEnabled⟩⟩
  · intro start armed
    obtain rfl := Option.some.inj armed
    exact (BitVec.add_zero _).symm
  · intro start armed _
    exact ⟨Option.some.inj armed, rfl⟩

theorem startWork_working_triple :
    timekeeping.Triple (Watching (Preparing fun _ _ _ => True)) startWork
      fun _ => Watching Working := by
  have invalidated : timekeeping.Triple (Watching (Preparing fun _ _ _ => True))
      (setNonceValid (.command .W) 0)
      fun _ => Watching (Preparing fun state _ _ => state.nonceValid = 0) :=
    preparing_triple rfl (fun _ => rfl) (fun _ => rfl) fun _ _ => rfl
  have cleared : timekeeping.Triple (Watching (Preparing fun state _ _ => state.nonceValid = 0))
      (setNonce (.command .W) 0) fun _ => Watching (Preparing NonceCleared) :=
    preparing_triple rfl (fun _ => rfl) (fun _ => rfl) fun _ invalid => ⟨invalid, rfl⟩
  refine .seq (.kept (steady_preparing _) (.assign fun _ => ?_)) fun _ =>
    invalidated.seq fun _ => cleared.seq fun _ => asicReset_working_triple.seq fun _ =>
    asicResetSpi_working_triple.seq fun _ => ?_
  · exact keeps_preparing rfl rfl rfl id
  refine .seq (.kept (steady_preparing _) (.fetch fun _ => ?_)) fun work => ?_
  · exact keeps_preparing rfl rfl rfl id
  refine .seq (.kept (steady_preparing _) (pushWork_within (fun _ _ => ?_) work)) fun _ => ?_
  · exact keeps_preparing rfl rfl rfl id
  refine timerSet_triple.seq fun _ => .kept steady_working (sendState_within ?_ _)
  exact fun _ _ _ => keeps_working rfl rfl rfl rfl rfl rfl

theorem commandW_working_triple :
    timekeeping.Triple (Watching Working) commandW fun _ => Watching Working := by
  have removed : timekeeping.Triple (Watching Working) (removeCommand .W)
      fun _ => Watching Anything :=
    .assign steady_working steady_anything_watched fun _ _ _ _ => ⟨⟨nofun, nofun⟩, trivial⟩
  refine removed.seq fun _ => .seq (.kept steady_anything_watched (fillWork_within ⟨?_, ?_⟩))
    fun _ => .seq (.assign steady_anything_watched (steady_preparing fun _ _ _ => True) ?_)
    fun _ => startWork_working_triple
  · exact fun _ _ _ _ => keeps_anything rfl rfl fun _ => rfl
  · exact fun _ _ _ _ => keeps_anything rfl rfl fun _ => rfl
  · intro device history watching _
    exact ⟨watching.1.step rfl fun _ => rfl, rfl, trivial⟩

theorem toggle_reset (portd : Byte) : (portd ^^^ bv 0) &&& resetPin = portd &&& resetPin := by
  revert portd
  decide +kernel

theorem single_working_triple (count : BitVec 16) {command : Command} (notW : command ≠ .W) :
    timekeeping.Triple (Watching Working) (dispatch count command)
      fun _ => Watching Working := by
  have reply (caller : Caller) : CoversReply (timekeeping.Keeps (Watching Working)) caller :=
    fun _ _ _ => keeps_working rfl rfl rfl rfl rfl rfl
  have removed {other : Command} (notW : other ≠ .W) :
      (removeCommand other).Within (timekeeping.Keeps (Watching Working)) := by
    refine .assign fun _ => keeps_working ?_ rfl rfl rfl rfl rfl
    cases other <;> first | rfl | exact absurd rfl notW
  cases command with
  | L =>
      exact .kept steady_working (.bind (removed notW) fun _ => .assign fun device =>
        keeps_working rfl rfl rfl rfl (toggle_reset device.portd) rfl)
  | R => exact commandR_working_triple
  | I =>
      exact .kept steady_working (.bind (removed notW) fun _ =>
        sendCmdReply_within (reply _) _ _ _)
  | A => exact commandA_working_triple
  | S =>
      exact .kept steady_working (.bind (removed notW) fun _ => sendState_within (reply _) _)
  | W => exact absurd rfl notW
  | other byte => exact .kept steady_working (removed notW)

theorem boundary_working : Boundary timekeeping (Watching Working) where
  steady := steady_working
  call := fun _ _ _ _ watching => watching
  receive := fun _ _ => keeps_working rfl rfl rfl rfl rfl rfl
  getCount := fun _ => keeps_working rfl rfl rfl rfl rfl rfl
  peekCommand := fun _ => keeps_working rfl rfl rfl rfl rfl rfl
  single := fun count _ notW => single_working_triple count notW
  work := commandW_working_triple
  flush := fun results => .kept steady_working (flushReplies_within
    ⟨fun _ => keeps_working rfl rfl rfl rfl rfl rfl,
      fun _ _ => keeps_working rfl rfl rfl rfl rfl rfl,
      fun _ _ => keeps_working rfl rfl rfl rfl rfl rfl,
      fun _ _ => keeps_working rfl rfl rfl rfl rfl rfl,
      fun _ _ => keeps_working rfl rfl rfl rfl rfl rfl⟩ results)
  service := fun _ _ _ watching => appService_working_triple _ _ watching

theorem watching_boot : Watching Working boot [] :=
  ⟨⟨nofun, nofun⟩, fun isWorking => by cases isWorking⟩

/-- In every state of every run the clock and the timer agree with the watch. -/
theorem clocked_run (choices : Choices) :
    Clocked (after choices).state (watch (after choices).history) :=
  timekeeping.run_always boundary_working.steady watching_boot boundary_working.calls choices
    (Meets.trivial _)

/-- Between calls a device in `STATE_WORKING` has everything that belongs to a
task in progress; and once `appService` has seen the deadline pass, the device
is not in `STATE_WORKING` when the call returns. -/
theorem working_state_complete (choices : Choices) (idle : (after choices).idle = true) :
    ((after choices).state.state.state = stateWorking →
      (after choices).state.state.nonceValid = 0 ∧ (after choices).state.state.nonce = 0 ∧
      (after choices).state.workTimer.active = 1 ∧
      (after choices).state.workTimer.interval = 16000 ∧
      (watch (after choices).history).armed = some (after choices).state.workTimer.start ∧
      (∃ bytes, loaded (after choices).history = some bytes ∧
        (after choices).state.worktask.Holds bytes) ∧
      (after choices).state.portd &&& resetPin ≠ 0 ∧
      (after choices).state.ddrd &&& spiEnablePin ≠ 0) ∧
    ((watch (after choices).history).overdue = true →
      (after choices).state.state.state ≠ stateWorking) := by
  have watching : Watching Working (after choices).state (after choices).history :=
    timekeeping.run_between boundary_working.steady watching_boot boundary_working.calls choices
      (Meets.trivial _) idle
  obtain ⟨clocked, working⟩ := watching
  refine ⟨fun isWorking => ?_, fun overdue isWorking => ?_⟩
  · have progress := working isWorking
    obtain ⟨start, armed⟩ := Option.isSome_iff_exists.mp progress.armed
    obtain ⟨bytes, loads⟩ := Option.isSome_iff_exists.mp progress.loaded
    have active : (after choices).state.workTimer.active ≠ 0 := by
      intro stopped
      rw [progress.active] at stopped
      cases stopped
    obtain ⟨sameStart, interval⟩ := clocked.timer start armed active
    exact ⟨progress.nonceValid, progress.nonce, progress.active, interval,
      armed.trans (congrArg some sameStart.symm),
      ⟨bytes, loads, stored_run boot choices bytes loads⟩, progress.resetHigh,
      progress.spiEnabled⟩
  · rw [(working isWorking).onTime] at overdue
    cases overdue

/-- One `'W'` in a single chunk, and nothing else. -/
def oneWork : Choices := .call (.usbData (0x57 :: .replicate 44 0)) :: .replicate 1450 .main

set_option maxRecDepth 10000 in
theorem working_state_complete_oneWork :
    (after oneWork).state.state.state = stateWorking ∧
      (watch (after oneWork).history).armed = some (after oneWork).state.workTimer.start ∧
      (after oneWork).state.portd &&& resetPin ≠ 0 := by
  have run : (after oneWork).idle = true ∧ (after oneWork).state.state.state = stateWorking := by
    decide +kernel
  obtain ⟨_, _, _, _, armed, _, resetHigh, _⟩ := (working_state_complete oneWork run.1).1 run.2
  exact ⟨run.2, armed, resetHigh⟩

end MiniMiner.AvalonBTC
