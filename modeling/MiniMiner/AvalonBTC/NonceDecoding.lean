import MiniMiner.AvalonBTC.Capture
import MiniMiner.AvalonBTC.Provenance
import MiniMiner.AvalonBTC.Replies
import MiniMiner.Bfgminer.ReadLoop

/-! From the bytes on the SPI to the nonce that the driver submits. The handler
shifts the bytes in from the left, `appService` reverses them and subtracts the
offset of the ASIC, and the reply carries the result in little-endian order. -/

set_option autoImplicit false

namespace MiniMiner.AvalonBTC

open LittleEndian Preemption Preemption.Program

theorem nonceOfReport_ofBytes (byte0 byte1 byte2 byte3 : Byte) :
    nonceOfReport (ofBytes byte3 byte2 byte1 byte0) = ofBytes byte0 byte1 byte2 byte3 - 0xC0 := by
  refine congrArg (fun reversed : Word => reversed - 0xC0) ?_
  apply BitVec.eq_of_getLsbD_eq
  intro index bound
  simp only [ofBytes, BitVec.getLsbD_or, BitVec.getLsbD_shiftLeft, BitVec.getLsbD_ushiftRight,
    BitVec.getLsbD_and, BitVec.getLsbD_append]
  interval_cases index <;> simp

def decoding : Setting Point Device Interrupt Call where
  machine := firmware
  allowed := fun _ _ _ => True
  always := fun _ _ => True

/-- A report waits for `appService`; its interrupt is disabled. -/
structure Pending (value : Word) (base : List Reply) (device : Device) (history : Past) :
    Prop where
  disabled : device.spcr &&& spie = 0
  report : device.report = value
  replies : replies history = base

theorem steady_pending (value : Word) (base : List Reply) :
    decoding.Steady (Pending value base) where
  stable := by
    intro source before after history handled _ pending
    rcases handler_eq_some handled with ⟨_, rfl⟩ | ⟨_, _, _, enabled, _⟩
    · exact ⟨pending.disabled, pending.report, pending.replies⟩
    · exact absurd pending.disabled enabled
  always := fun _ _ _ => trivial

/-- The replies so far, and what is known of the state and the timer. -/
def Stage (base : List Reply) (known : State → Timer → Prop) (device : Device)
    (history : Past) : Prop :=
  replies history = base ∧ known device.state device.workTimer

theorem state_handled {source : Interrupt} {before after : Device}
    (handled : handler source before = some after) :
    after.state = before.state ∧ after.workTimer = before.workTimer := by
  rcases handler_eq_some handled with ⟨_, rfl⟩ | ⟨_, _, _, _, rfl⟩
  · exact ⟨rfl, rfl⟩
  · exact ⟨rfl, rfl⟩

theorem steady_stage (base : List Reply) (known : State → Timer → Prop) :
    decoding.Steady (Stage base known) where
  stable := by
    intro source before after history handled _ stage
    obtain ⟨state, timer⟩ := state_handled handled
    refine ⟨stage.1, ?_⟩
    rw [state, timer]
    exact stage.2
  always := fun _ _ _ => trivial

theorem stage_triple {base : List Reply} {known : State → Timer → Prop} {point : Point}
    {effect : Device → Device} (after : State → Timer → Prop) (mute : point.mute = true)
    (step : ∀ device : Device, known device.state device.workTimer →
      after (effect device).state (effect device).workTimer) :
    decoding.Triple (Stage base known) (assign point effect) fun _ => Stage base after :=
  .assign (steady_stage _ _) (steady_stage _ _) fun device history stage _ =>
    ⟨(replies_mute mute _ _ history).trans stage.1, step device stage.2⟩

theorem keeps_stage {base : List Reply} {known : State → Timer → Prop} {point : Point}
    {before after : Device} (mute : point.mute = true) (state : after.state = before.state)
    (timer : after.workTimer = before.workTimer) :
    decoding.Keeps (Stage base known) point before after := by
  intro history _ stage
  refine ⟨(replies_mute mute _ _ history).trans stage.1, ?_⟩
  rw [state, timer]
  exact stage.2

theorem coversAsic_stage (base : List Reply) (known : State → Timer → Prop) (caller : Caller) :
    CoversAsic (decoding.Keeps (Stage base known)) caller where
  clearReportCount := fun _ _ => keeps_stage rfl rfl rfl
  clearReportValid := fun _ _ => keeps_stage rfl rfl rfl
  resetLow := fun _ => keeps_stage rfl rfl rfl
  resetHigh := fun _ => keeps_stage rfl rfl rfl
  disableSpi := fun _ => keeps_stage rfl rfl rfl
  enableSpi := fun _ => keeps_stage rfl rfl rfl

theorem asicGetNonce_pending_triple (value : Word) (base : List Reply) :
    decoding.Triple (Pending value base) asicGetNonce
      fun nonce => Stage base fun _ _ => nonce = value := by
  have steady := steady_pending value base
  have cleared : decoding.Triple (Pending value base) (clearReport .asicGetNonce .report)
      fun _ => Pending value base :=
    .kept steady (.bind
      (.assign fun _ _ _ pending => ⟨pending.disabled, pending.report, pending.replies⟩)
      fun _ => .assign fun _ _ _ pending => ⟨pending.disabled, pending.report, pending.replies⟩)
  exact cleared.seq fun _ => .fetch steady (fun _ => steady_stage _ _)
    fun _ _ pending _ => ⟨pending.replies, pending.report⟩

/-- The reply in progress, of which so many bytes have been written. -/
def Uttering (base : List Reply) (state : State) (count : Nat) (device : Device)
    (history : Past) : Prop :=
  ∃ reply, Stage (base ++ [reply]) (fun current timer => current = state ∧ timer.active = 0)
      device history ∧ reply.caller = .report ∧
    reply.bytes = (Command.S.toByte :: state.bytes).take count

theorem steady_uttering (base : List Reply) (state : State) (count : Nat) :
    decoding.Steady (Uttering base state count) where
  stable := by
    intro source before after history handled admitted uttering
    obtain ⟨reply, stage, rest⟩ := uttering
    exact ⟨reply, (steady_stage _ _).stable source before after history handled admitted stage,
      rest⟩
  always := fun _ _ _ => trivial

theorem sendState_stage_triple (base : List Reply) (state : State) :
    decoding.Triple
      (Stage base fun current timer => current = state ∧ timer.active = 0)
      (sendState .report Command.S.toByte) fun _ => Uttering base state 7 := by
  have first : decoding.Triple
      (Stage base fun current timer => current = state ∧ timer.active = 0)
      (usbWrite .report 0 (fun _ => [Command.S.toByte]) 1) fun _ => Uttering base state 1 := by
    refine .seq (.assign (steady_stage _ _) (steady_uttering base state 1) ?_)
      fun _ => .done (steady_uttering base state 1)
    intro device history stage _
    have written := device.usartToUsbBuffer.stored_insert Command.S.toByte
    refine ⟨{ caller := .report, state := device.state, generation := (works history).length,
              task := device.worktask, bytes := [Command.S.toByte] }, ⟨?_, stage.2⟩, rfl, rfl⟩
    simp only [replies, writtenByte, List.getD_cons_zero, written, stage.1]
  have rest : decoding.Triple (Uttering base state 1)
      (usbWrite .report 1 (fun device => device.state.bytes) 6) fun _ => Uttering base state 7 := by
    refine Setting.Triple.eachRange (fun count => Uttering base state (count + 1))
      (steady_uttering base state 7) fun index inside => ?_
    refine .assign (steady_uttering _ _ _) (steady_uttering _ _ _) ?_
    intro device history uttering _
    obtain ⟨reply, ⟨current, same, inactive⟩, caller, bytes⟩ := uttering
    have written := device.usartToUsbBuffer.stored_insert (device.state.bytes.getD index 0)
    refine ⟨{ reply with bytes := reply.bytes ++ [device.state.bytes.getD index 0] },
      ⟨?_, same, inactive⟩, caller, ?_⟩
    · rw [Nat.add_comm 1 index]
      simp only [replies, writtenByte, written, current, extendLast_append]
    · have next : (Command.S.toByte :: state.bytes)[index + 1]? =
          some (device.state.bytes.getD index 0) := by
        rw [← same, List.getElem?_cons_succ, List.getD_eq_getElem?_getD,
          List.getElem?_eq_getElem inside]
        rfl
      rw [List.take_add_one, next, ← bytes]
      rfl
  exact first.seq fun _ => rest

/-- What the report branch leaves in `app->state`. -/
def decodedState (value : Word) : State :=
  { state := stateReset, nonceValid := 1, nonce := nonceOfReport value }

theorem serviceReport_decoding_triple (value : Word) (base : List Reply) :
    decoding.Triple (Pending value base) serviceReport fun _ =>
      Uttering base (decodedState value) 7 := by
  refine (asicGetNonce_pending_triple value base).seq fun nonce => ?_
  refine .seq (stage_triple (fun _ timer => nonce = value ∧ timer.active = 0) rfl
    fun _ read => ⟨read, rfl⟩) fun _ => ?_
  have covers := coversAsic_stage base (fun _ timer => nonce = value ∧ timer.active = 0) .report
  refine .seq (.kept (steady_stage _ _) (asicStop_within covers)) fun _ => ?_
  refine .seq (.kept (steady_stage _ _) (asicResetSpi_within covers)) fun _ => ?_
  refine .seq (stage_triple (fun state timer => (nonce = value ∧ timer.active = 0) ∧
    state.state = stateReset) rfl fun _ known => ⟨known, rfl⟩) fun _ => ?_
  refine .seq (.kept (steady_stage _ _) (.assign fun _ => keeps_stage rfl rfl rfl)) fun _ => ?_
  refine .seq (stage_triple (fun state timer => timer.active = 0 ∧ state.state = stateReset ∧
    state.nonce = nonceOfReport value) rfl fun _ known => ?_) fun _ => ?_
  · obtain ⟨⟨read, inactive⟩, reset⟩ := known
    exact ⟨inactive, reset, congrArg nonceOfReport read⟩
  refine .seq (stage_triple _ rfl fun device known => ?_) fun _ => sendState_stage_triple base _
  obtain ⟨inactive, reset, nonce⟩ := known
  exact ⟨by rw [decodedState, ← reset, ← nonce], inactive⟩

def Raised (device : Device) : Prop := (asicReportValid.alone device).1 ≠ 0

instance (device : Device) : Decidable (Raised device) :=
  inferInstanceAs (Decidable ((asicReportValid.alone device).1 ≠ 0))

theorem steady_raised (value : Word) (base : List Reply) :
    decoding.Steady fun device history => Pending value base device history ∧ Raised device := by
  refine (steady_pending value base).and fun source before after history handled _ raised => ?_
  rcases handler_eq_some handled with ⟨_, rfl⟩ | ⟨_, _, _, _, rfl⟩
  · exact raised
  · exact fun lowered => by cases lowered

/-- The report branch has stopped the timer, so the second branch is not taken. -/
theorem appService_decoding_triple (value : Word) (base : List Reply) :
    decoding.Triple (fun device history => Pending value base device history ∧ Raised device)
      appService fun _ =>
      Uttering base (decodedState value) 7 := by
  refine .read (fun valid => valid ≠ 0) (steady_raised value base) (fun device history _ both => ?_)
    (fun _ _ both => both.2) fun valid raised => ?_
  · exact ⟨⟨both.1.disabled, both.1.report, both.1.replies⟩, both.2⟩
  have steady := steady_uttering base (decodedState value) 7
  refine .seq (.onlyIf steady (fun _ => ?_) fun lowered => absurd raised lowered) fun _ => ?_
  · exact (serviceReport_decoding_triple value base).conseq (fun _ _ both => both.1)
      fun _ _ _ uttering => uttering
  have silent : decoding.Triple (Uttering base (decodedState value) 7) workTimerExpired
      fun expired device history =>
        Uttering base (decodedState value) 7 device history ∧ expired = false := by
    refine .statement steady (fun _ => steady.and fun _ _ _ _ _ _ quiet => quiet) ?_
    intro device history uttering _
    obtain ⟨reply, ⟨current, same, inactive⟩, rest⟩ := uttering
    have quiet : timerDue device.workTimer device.time = false :=
      Bool.eq_false_iff.mpr fun due => active_of_timerDue due inactive
    refine ⟨⟨reply, ⟨current, same, ?_⟩, rest⟩, quiet⟩
    rw [timerExpired_of_not_due quiet]
    exact inactive
  refine silent.seq fun expired => .onlyIf steady (fun due => ?_) fun _ _ _ both => both.1
  intro _ _ both
  rw [both.2] at due
  cases due

/-- Between calls `appService` is called, and these interrupts come before it
tests the flag. -/
def beforeTest (first : Choices) (arriving : List Interrupt) : Choices :=
  first ++ .call .service :: arriving.map .interrupt

theorem after_append (choices rest : Choices) :
    after (choices ++ rest) = firmware.run rest (after choices) :=
  firmware.run_append choices rest _

theorem after_beforeTest {first : Choices} (idle : (after first).idle = true)
    (arriving : List Interrupt) :
    (after (beforeTest first arriving)).code = appService ∧
      Noting Resting (after (beforeTest first arriving)).state
        (after (beforeTest first arriving)).history := by
  have resting := provenance.run_between boundary_provenance.steady noting_boot
    boundary_provenance.calls first (Meets.trivial _) idle
  have entered : firmware.advance (after first) (.call .service) =
      ⟨appService, (after first).state,
        ⟨.call .service, (after first).state, (after first).state⟩ :: (after first).history⟩ := by
    rw [Config.idle_iff] at idle
    simp only [Machine.advance, idle]
    rfl
  have called : after (beforeTest first arriving) = firmware.run (arriving.map .interrupt)
      (firmware.advance (after first) (.call .service)) := after_append first _
  rw [called, entered]
  exact boundary_provenance.steady.run_interrupts (Meets.trivial _)
    (boundary_provenance.call .service _ _ trivial resting)

theorem finishes (choices : Choices) :
    ∃ steps, (after (choices ++ List.replicate steps .main)).idle = true := by
  obtain ⟨steps, finished⟩ := firmware.run_finishes (after choices)
  refine ⟨steps, ?_⟩
  rw [after_append]
  exact finished

theorem toNat_nonceOfReport (byte0 byte1 byte2 byte3 : Byte) :
    ((nonceOfReport (ofBytes byte3 byte2 byte1 byte0)).toNat : Int) =
      (byte0.toNat + byte1.toNat * 2 ^ 8 + byte2.toNat * 2 ^ 16 + byte3.toNat * 2 ^ 24 - 0xC0) %
        2 ^ 32 := by
  rw [nonceOfReport_ofBytes, BitVec.toNat_sub, toNat_ofBytes]
  show (((2 ^ 32 - 0xC0 + _) % 2 ^ 32 : Nat) : Int) = _
  omega

theorem found_report {first : Choices} {arriving : List Interrupt} {spdr : Byte}
    {polls : Nat → Option Byte} {source target : Device} {earlier : Past}
    (idle : (after first).idle = true)
    (latest : (ledger (after (beforeTest first arriving)).history).latest =
      ⟨.interrupt (.spi spdr polls), source, target⟩ :: earlier)
    (raised : Raised (after (beforeTest first arriving)).state) :
    Pending (spiStc spdr polls source).report
      (replies (after (beforeTest first arriving)).history)
      (after (beforeTest first arriving)).state (after (beforeTest first arriving)).history := by
  have resting := (after_beforeTest idle arriving).2.2
  have up : (after (beforeTest first arriving)).state.reportValid ≠ 0 := by
    intro down
    refine raised ?_
    show (after (beforeTest first arriving)).state.reportValid.setWidth 8 = 0
    rw [down]
    rfl
  obtain ⟨disabled, ⟨_, _, _, _, same, report, _⟩, _⟩ := resting.fresh up
  rw [latest] at same
  injection same with same _
  injection same with same sameSource _
  injection same with same
  injection same with sameByte samePolls
  subst sameByte samePolls sameSource
  exact ⟨disabled, report.symm, rfl⟩

/-- The handler ends within 3000 polls. If the bytes of a report come in time it
leaves their big-endian value, and the call of `appService` that finds this
report resets the state, marks the nonce as valid, subtracts the offset from the
little-endian value, and queues seven bytes from which the driver submits that
nonce. -/
theorem report_reaches_driver (byte0 byte1 byte2 byte3 : Byte) (polls : Nat → Option Byte) :
    (∃ count ≤ 3000,
      capture polls 3001 0 (.entry byte0) = .polled polls 0 (.entry byte0) count ∧
      (Capture.polled polls 0 (.entry byte0) count).Exits ∧
      ∀ earlier < count, ¬ (Capture.polled polls 0 (.entry byte0) earlier).Exits) ∧
    (Delivers polls 0 [byte1, byte2, byte3] →
      (∀ device, (spiStc byte0 polls device).report.toNat =
        byte0.toNat * 2 ^ 24 + byte1.toNat * 2 ^ 16 + byte2.toNat * 2 ^ 8 + byte3.toNat) ∧
      ∀ first arriving source target earlier, (after first).idle = true →
        (ledger (after (beforeTest first arriving)).history).latest =
          ⟨.interrupt (.spi byte0 polls), source, target⟩ :: earlier →
        Raised (after (beforeTest first arriving)).state →
        ∀ rest, (∀ entry, .call entry ∉ rest) →
          (∃ steps, (after (beforeTest first arriving ++ rest ++
            List.replicate steps .main)).idle = true) ∧
          ((after (beforeTest first arriving ++ rest)).idle = true →
            ∃ reply, replies (after (beforeTest first arriving ++ rest)).history =
                replies (after (beforeTest first arriving)).history ++ [reply] ∧
              reply.bytes.length = 7 ∧
              (after (beforeTest first arriving ++ rest)).state.state.state = stateReset ∧
              (after (beforeTest first arriving ++ rest)).state.state.nonceValid = 1 ∧
              ((after (beforeTest first arriving ++ rest)).state.state.nonce.toNat : Int) =
                (byte0.toNat + byte1.toNat * 2 ^ 8 + byte2.toNat * 2 ^ 16 +
                  byte3.toNat * 2 ^ 24 - 0xC0) % 2 ^ 32 ∧
              (Bfgminer.MMOState.ofBuffer reply.bytes).outcome =
                some (.submitNonce
                  (after (beforeTest first arriving ++ rest)).state.state.nonce))) := by
  refine ⟨capture_bounded byte0 polls, fun delivers => ⟨fun device => ?_, ?_⟩⟩
  · rw [(spiStc_of_delivers delivers device).1, shiftIn_three, toNat_ofBytes]
    omega
  intro first arriving source target earlier idle latest raised rest alone
  refine ⟨finishes _, fun finished => ?_⟩
  have value : (spiStc byte0 polls source).report = ofBytes byte3 byte2 byte1 byte0 := by
    rw [(spiStc_of_delivers delivers source).1, shiftIn_three]
  have pending := found_report idle latest raised
  rw [value] at pending
  have code := (after_beforeTest idle arriving).1
  rw [after_append] at finished ⊢
  generalize after (beforeTest first arriving) = found at *
  have ensured := appService_decoding_triple _ _ _ _ ⟨pending, raised⟩
  rw [← code] at ensured
  obtain ⟨reply, ⟨current, state, _⟩, _, bytes⟩ := ensured.finished alone (Meets.trivial _) finished
  have whole : reply.bytes = (Bfgminer.StateFrame.mk Command.S.toByte
      (decodedState (ofBytes byte3 byte2 byte1 byte0))).bytes := bytes
  refine ⟨reply, current, ?_, ?_⟩
  · rw [whole]
    rfl
  · rw [whole, Bfgminer.ofBuffer_bytes]
    change (firmware.run rest found).state.state = _ at state
    rw [state]
    exact ⟨rfl, rfl, toNat_nonceOfReport byte0 byte1 byte2 byte3, rfl⟩

def promptBytes (poll : Nat) : Option Byte := [(2 : Byte), 3, 4][poll]?

theorem delivers_promptBytes : Delivers promptBytes 0 [2, 3, 4] :=
  ⟨0, by decide, nofun, rfl, 0, by decide, nofun, rfl, 0, by decide, nofun, rfl, trivial⟩

theorem report_reaches_driver_promptly :
    ∃ reply, replies (after (beforeTest [.interrupt (.spi 1 promptBytes)] [] ++
        List.replicate 24 .main)).history = [reply] ∧
      (Bfgminer.MMOState.ofBuffer reply.bytes).outcome = some (.submitNonce 0x04030141) := by
  have decoded := ((report_reaches_driver 1 2 3 4 promptBytes).2 delivers_promptBytes).2
    [.interrupt (.spi 1 promptBytes)] [] boot (spiStc 1 promptBytes boot) [] (by decide +kernel)
    rfl (by decide +kernel) (List.replicate 24 .main)
    (fun _ member => by cases List.eq_of_mem_replicate member)
  obtain ⟨reply, current, _, _, _, nonce, outcome⟩ := decoded.2 (by decide +kernel)
  refine ⟨reply, current, outcome.trans ?_⟩
  generalize (after _).state.state.nonce = value at nonce ⊢
  have decoded : (value.toNat : Int) = 0x04030141 := nonce.trans (by decide)
  have same : value = 0x04030141 := by
    apply BitVec.eq_of_toNat_eq
    change value.toNat = 0x04030141
    omega
  rw [same]

end MiniMiner.AvalonBTC
