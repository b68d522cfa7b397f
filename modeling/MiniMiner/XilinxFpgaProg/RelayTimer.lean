import MiniMiner.XilinxFpgaProg.Footprint
import MiniMiner.XilinxFpgaProg.Relay

/-! When the USART bytes are relayed. Both `appService` and the receive interrupt set the
timeout, the one stops it and the other restarts it at any statement; it still runs between
any two calls, so that bytes in the serial ring wait for 100 ms of silence and no longer than
the next call after it. -/

set_option autoImplicit false

namespace MiniMiner.XilinxFpgaProg

open LittleEndian Preemption Preemption.Program

/-- The timeout, which `appService` may have stopped. -/
structure Timed (stopped : Bool) (device : Device) (_ : Past) : Prop where
  active : stopped = false → device.serialTimeout.active ≠ 0
  interval : device.serialTimeout.interval = 100

def timing : Setting Point Device Interrupt Call where
  machine := firmware
  allowed := fun _ _ _ => True
  always := fun device _ => device.serialTimeout.interval = 100

variable {stopped : Bool}

theorem running_ne_stopped : (1 : Byte) ≠ 0 := by decide

theorem steady_timed : timing.Steady (Timed stopped) where
  stable := by
    intro source before after history handled _ timed
    cases source with
    | tick =>
        cases handled
        exact ⟨timed.active, timed.interval⟩
    | usart byte configured =>
        cases configured with
        | false =>
            cases handled
            exact ⟨timed.active, timed.interval⟩
        | true =>
            -- a byte restarts the timeout, whether or not `appService` has stopped it
            cases handled
            exact ⟨fun _ => running_ne_stopped, timed.interval⟩
  always := fun _ _ timed => timed.interval

/-- Statements that leave the timeout alone. -/
def Untimed (_ : Point) (before after : Device) : Prop :=
  after.serialTimeout = before.serialTimeout

theorem kept_untimed {Value : Type} {program : Firmware Value} (within : program.Within Untimed) :
    timing.Triple (Timed stopped) program fun _ => Timed stopped := by
  refine .kept steady_timed (within.imp fun point before after same history _ timed => ?_)
  refine ⟨?_, ?_⟩
  · rw [same]
    exact timed.active
  · rw [same]
    exact timed.interval

theorem coversReception_untimed : CoversReception Untimed where
  removeSelect := fun _ _ => rfl
  payload := fun _ _ _ _ _ => rfl
  ports := fun _ _ _ => rfl
  useSpi := fun _ => rfl
  useUsart := fun _ => rfl
  removeCmd := fun _ _ => rfl
  removeSize := fun _ _ => rfl
  addByte := fun _ _ _ => rfl
  verdict := fun _ _ => rfl
  zero := fun _ _ => rfl

theorem flushReplies_untimed (results : List Bool) : (flushReplies results).Within Untimed :=
  flushReplies_within ⟨fun _ => rfl, fun _ _ => rfl, fun _ _ => rfl, fun _ _ => rfl,
    fun _ _ => rfl⟩ results

theorem relay_untimed : relay.Within Untimed :=
  relay_within ⟨fun _ => rfl, fun _ _ => rfl, fun _ _ => rfl, fun _ _ => rfl, fun _ _ => rfl⟩

theorem serialTimeoutExpired_timed :
    timing.Triple (Timed false) serialTimeoutExpired fun expired => Timed expired := by
  refine .seq (kept_untimed (.fetch fun _ => rfl)) fun time => ?_
  refine .seq (kept_untimed (.fetch fun _ => rfl)) fun active => ?_
  refine .ite (fun _ => ?_) fun _ => ?_
  · exact .done steady_timed
  refine .seq (kept_untimed (.fetch fun _ => rfl)) fun start => ?_
  refine .seq (kept_untimed (.fetch fun _ => rfl)) fun expired => ?_
  have cleared : timing.Triple (Timed false)
      (onlyIf (expired = true) (assign .timeoutClear fun device =>
        { device with serialTimeout := { device.serialTimeout with active := 0 } }))
      fun _ => Timed expired := by
    refine .onlyIf steady_timed (fun passed => ?_) fun running device history timed => ?_
    · subst passed
      exact .assign steady_timed steady_timed fun device history timed _ => ⟨nofun, timed.interval⟩
    · exact ⟨fun _ => timed.active rfl, timed.interval⟩
  exact cleared.seq fun _ => .done steady_timed

theorem serialTimeoutRestart_timed :
    timing.Triple (Timed true) serialTimeoutRestart fun _ => Timed false := by
  have activated : timing.Triple (Timed true)
      (assign .restartActive fun device =>
        { device with serialTimeout := { device.serialTimeout with active := 1 } })
      fun _ => Timed false :=
    .assign steady_timed steady_timed fun device history timed _ =>
      ⟨fun _ => running_ne_stopped, timed.interval⟩
  refine activated.seq fun _ => .seq (kept_untimed (.fetch fun _ => rfl)) fun time => ?_
  exact .assign steady_timed steady_timed fun device history timed _ =>
    ⟨timed.active, timed.interval⟩

theorem appService_timed : timing.Triple (Timed false) appService fun _ => Timed false := by
  refine serialTimeoutExpired_timed.seq fun expired => ?_
  refine .onlyIf steady_timed (fun passed => ?_) fun running device history timed => ?_
  · subst passed
    exact (kept_untimed relay_untimed).seq fun _ => serialTimeoutRestart_timed
  · rw [Bool.not_eq_true] at running
    rw [running] at timed
    exact timed

theorem calls_timed (entry : Call) (device : Device) (history : Past)
    (timed : Timed false device history) :
    timing.Ensures (fun _ => Timed false) (body entry) device
      (⟨.call entry, device, device⟩ :: history) := by
  have called : Timed false device (⟨.call entry, device, device⟩ :: history) :=
    ⟨timed.active, timed.interval⟩
  cases entry with
  | usbData more =>
      exact kept_untimed (appUsbDataReceived_within coversReception_untimed more) _ _ called
  | flush results => exact kept_untimed (flushReplies_untimed results) _ _ called
  | service => exact appService_timed _ _ called

theorem timed_of_idle {choices : Choices} (idle : (after choices).idle = true) :
    Timed false (after choices).state (after choices).history := by
  refine timing.run_between steady_timed ⟨fun _ => running_ne_stopped, by rfl⟩
    (fun entry device history timed _ => calls_timed entry device history timed) choices ?_ idle
  exact .trivial _

/-- The milliseconds since the last byte or the last relay, modulo the clock's range. -/
def Device.silence (device : Device) : Word := device.time - device.serialTimeout.start

/-- No byte arrives, and the clock does not come round to the start of the timeout. -/
def silent : Step → Device → Past → Prop
  | .interrupt .tick, device, _ => device.silence.toNat + 1 < 2 ^ 32
  | .interrupt (.usart _ configured), _, _ => configured = false
  | _, _, _ => True

instance (label : Step) (device : Device) (history : Past) :
    Decidable (silent label device history) := by
  cases label with
  | main point => exact inferInstanceAs (Decidable True)
  | interrupt source =>
      cases source with
      | tick => exact inferInstanceAs (Decidable (_ < _))
      | usart byte configured => exact inferInstanceAs (Decidable (_ = _))
  | call entry => exact inferInstanceAs (Decidable True)

def silence : Setting Point Device Interrupt Call where
  machine := firmware
  allowed := silent
  always := fun _ _ => True

/-- Nothing is relayed yet, and it is time to do so. -/
structure Late (timer : Timer) (bytes queued : List Byte) (device : Device) (_ : Past) : Prop where
  timer : device.serialTimeout = timer
  late : 100 < device.silence.toNat
  bytes : device.serialRxBuffer.contents = bytes
  queued : device.usartToUsbBuffer.contents = queued

/-- The bytes that are still to be relayed, and what is queued for the host. -/
structure Moved (bytes queued : List Byte) (device : Device) (_ : Past) : Prop where
  bytes : device.serialRxBuffer.contents = bytes
  queued : device.usartToUsbBuffer.contents = queued

variable {timer : Timer} {bytes queued : List Byte}

theorem silence_tick {device : Device} (below : device.silence.toNat + 1 < 2 ^ 32) :
    ({ device with time := device.time + 1 } : Device).silence.toNat =
      device.silence.toNat + 1 := by
  have moved : ({ device with time := device.time + 1 } : Device).silence =
      device.silence + 1 := by
    simp only [Device.silence, BitVec.sub_eq_add_neg, BitVec.add_assoc]
    rw [BitVec.add_comm 1]
  rw [moved, BitVec.toNat_add]
  exact Nat.mod_eq_of_lt below

theorem steady_late : silence.Steady (Late timer bytes queued) where
  stable := by
    intro source before after history handled admitted late
    cases source with
    | tick =>
        cases handled
        refine ⟨late.timer, ?_, late.bytes, late.queued⟩
        rw [silence_tick admitted]
        exact Nat.lt_succ_of_lt late.late
    | usart byte configured =>
        cases admitted
        cases handled
        exact ⟨late.timer, late.late, late.bytes, late.queued⟩
  always := fun _ _ _ => trivial

theorem steady_moved : silence.Steady (Moved bytes queued) where
  stable := by
    intro source before after history handled admitted moved
    cases source with
    | tick =>
        cases handled
        exact ⟨moved.bytes, moved.queued⟩
    | usart byte configured =>
        cases admitted
        cases handled
        exact ⟨moved.bytes, moved.queued⟩
  always := fun _ _ _ => trivial

theorem expired_of_late {timeout : Timer} {time : Word} (interval : timeout.interval = 100)
    (active : timeout.active ≠ 0) (late : 100 < (time - timeout.start).toNat) :
    (if timeout.start < time then decide (timeout.interval < time - timeout.start)
      else decide (timeout.interval ≤ ~~~timeout.start + time + 1)) = true := by
  have above : timeout.interval < time - timeout.start := by
    rw [interval]
    exact late
  have due : timerDue timeout time = true := by
    rw [timerDue_iff active]
    split
    · exact above
    · exact BitVec.le_of_lt above
  rwa [timerDue, if_neg active] at due

theorem serialTimeoutExpired_late (interval : timer.interval = 100) (active : timer.active ≠ 0) :
    silence.Triple (Late timer bytes queued) serialTimeoutExpired
      fun expired device history => expired = true ∧ Moved bytes queued device history := by
  have kept (point : Point) (device : Device) :
      silence.Keeps (Late timer bytes queued) point device device :=
    fun _ _ late => ⟨late.timer, late.late, late.bytes, late.queued⟩
  -- the clock is read before the timer and may go on, but the time read is late enough
  refine .read (fun time => 100 < (time - timer.start).toNat) steady_late (kept _) ?_ ?_
  · intro device history late
    rw [← late.timer]
    exact late.late
  intro time passed
  refine .read (· ≠ 0) steady_late (kept _) ?_ ?_
  · intro device history late
    rw [late.timer]
    exact active
  intro read running
  rw [if_neg running]
  refine .read (· = timer.start) steady_late (kept _) ?_ ?_
  · intro device history late
    rw [late.timer]
  rintro start rfl
  refine .read (· = true) steady_late (kept _) ?_ ?_
  · intro device history late
    rw [late.timer]
    exact expired_of_late interval active passed
  rintro expired rfl
  have cleared : silence.Triple (Late timer bytes queued)
      (assign .timeoutClear fun device =>
        { device with serialTimeout := { device.serialTimeout with active := 0 } })
      fun _ => Moved bytes queued :=
    .assign steady_late steady_moved fun device history late _ => ⟨late.bytes, late.queued⟩
  refine cleared.seq fun _ => ?_
  intro device history moved after later interrupted
  exact ⟨trivial, rfl, steady_moved.interrupted interrupted moved⟩

theorem queue_moved {point : Point} (byte : Byte) (room : queued.length < 128) :
    silence.Triple (Moved bytes queued) (queue point byte)
      fun _ => Moved bytes (queued ++ [byte]) := by
  refine .assign steady_moved steady_moved fun device history moved _ => ⟨moved.bytes, ?_⟩
  have free : device.usartToUsbBuffer.count.toNat < 128 := by
    rw [← RingBuffer.length_contents, moved.queued]
    exact room
  rw [device.usartToUsbBuffer.contents_insert byte free, moved.queued]

theorem relayTake_moved {byte : Byte} :
    silence.Triple (Moved (byte :: bytes) queued)
      (.statement .relayTake
        (fun device => { device with serialRxBuffer := device.serialRxBuffer.remove })
        fun device => .done device.serialRxBuffer.peek)
      fun taken device history => taken = byte ∧ Moved bytes queued device history := by
  refine .statement steady_moved (fun taken => ?_) fun device history moved _ => ?_
  · exact ⟨fun source before after history handled admitted both =>
      ⟨both.1, steady_moved.stable source before after history handled admitted both.2⟩,
      fun _ _ _ => trivial⟩
  · have nonempty : device.serialRxBuffer.count ≠ 0 := by
      rw [Ne, ← RingBuffer.contents_eq_nil_iff, moved.bytes]
      exact List.cons_ne_nil _ _
    have split := device.serialRxBuffer.contents_eq_peek_cons nonempty
    rw [moved.bytes] at split
    obtain ⟨first, rest⟩ := List.cons.inj split
    exact ⟨first.symm, rest.symm, moved.queued⟩

theorem copyByte_moved {byte : Byte} (room : queued.length < 128) :
    silence.Triple (Moved (byte :: bytes) queued)
      (do
        let byte ← .statement .relayTake
          (fun device => { device with serialRxBuffer := device.serialRxBuffer.remove })
          fun device => .done device.serialRxBuffer.peek
        queue .relayByte byte)
      fun _ => Moved bytes (queued ++ [byte]) := by
  refine relayTake_moved.seq fun taken => ?_
  rintro device history ⟨rfl, moved⟩
  exact queue_moved taken room device history moved

theorem copy_moved (bytes queued : List Byte) {indices : List Nat}
    (same : indices.length = bytes.length) (room : queued.length + bytes.length ≤ 128) :
    silence.Triple (Moved bytes queued)
      (each indices fun _ => do
        let byte ← .statement .relayTake
          (fun device => { device with serialRxBuffer := device.serialRxBuffer.remove })
          fun device => .done device.serialRxBuffer.peek
        queue .relayByte byte)
      fun _ => Moved [] (queued ++ bytes) := by
  -- only the number of passes matters, so the bytes drive the induction
  induction bytes generalizing indices queued with
  | nil =>
      rw [List.length_eq_zero_iff.mp same, List.append_nil]
      exact .done steady_moved
  | cons byte rest ih =>
      rw [List.length_cons] at same room
      obtain ⟨index, others, rfl⟩ := List.exists_cons_of_length_eq_add_one same
      have longer : (queued ++ [byte]).length = queued.length + 1 := List.length_append
      have remaining := ih (queued ++ [byte]) (Nat.succ.inj same) (by omega)
      rw [List.append_assoc, List.singleton_append] at remaining
      rw [each_cons]
      exact (copyByte_moved (by omega)).seq fun _ => remaining

theorem relay_moved (nonempty : bytes ≠ []) (room : queued.length + 2 + bytes.length ≤ 128) :
    silence.Triple (Moved bytes queued) relay
      fun _ => Moved [] (queued ++ serialUsartData :: BitVec.ofNat 8 bytes.length :: bytes) := by
  refine .read (· = BitVec.ofNat 8 bytes.length) steady_moved
    (fun _ _ _ moved => ⟨moved.bytes, moved.queued⟩) ?_ ?_
  · intro device history moved
    rw [← moved.bytes, RingBuffer.length_contents]
    rfl
  rintro count rfl
  have some : 0 < bytes.length := List.length_pos_iff.mpr nonempty
  have counted : (BitVec.ofNat 8 bytes.length).toNat = bytes.length := by
    rw [BitVec.toNat_ofNat]
    exact Nat.mod_eq_of_lt (by omega)
  have positive : BitVec.ofNat 8 bytes.length > 0 := by
    rw [gt_iff_lt, BitVec.lt_def, counted]
    exact some
  have header : (queued ++ [serialUsartData]).length = queued.length + 1 := List.length_append
  have whole : ((queued ++ [serialUsartData]) ++ [BitVec.ofNat 8 bytes.length]).length =
      queued.length + 2 := by
    rw [List.length_append, header]
    rfl
  have copied := copy_moved bytes ((queued ++ [serialUsartData]) ++ [BitVec.ofNat 8 bytes.length])
    ((List.length_range).trans counted) (by omega)
  have framed : (queued ++ [serialUsartData]) ++ [BitVec.ofNat 8 bytes.length] ++ bytes =
      queued ++ serialUsartData :: BitVec.ofNat 8 bytes.length :: bytes := by
    simp
  rw [framed] at copied
  refine .onlyIf steady_moved (fun _ => ?_) fun none => absurd positive none
  exact (queue_moved _ (by omega)).seq fun _ => (queue_moved _ (by omega)).seq fun _ => copied

theorem appService_moved (interval : timer.interval = 100) (active : timer.active ≠ 0)
    (nonempty : bytes ≠ []) (room : queued.length + 2 + bytes.length ≤ 128) :
    silence.Triple (Late timer bytes queued) appService
      fun _ => Moved [] (queued ++ serialUsartData :: BitVec.ofNat 8 bytes.length :: bytes) := by
  refine (serialTimeoutExpired_late interval active).seq fun expired => ?_
  rintro device history ⟨rfl, moved⟩
  have covers {moved : List Byte} : CoversTimeout (silence.Keeps (Moved [] moved)) :=
    fun _ _ _ _ _ _ moved => ⟨moved.bytes, moved.queued⟩
  refine ((relay_moved nonempty room).seq fun _ => ?_) device history moved
  exact .kept steady_moved (serialTimeoutRestart_within covers)

/-- In every run: between two calls the timeout is running. So when USART bytes wait, 100 ms
have passed since the last one and the next `appService` is not disturbed by another, it empties
the serial ring into one frame for the host, provided that the transmit ring has room for it. -/
theorem waiting_bytes_relayed (choices : Choices) (idle : (after choices).idle = true) :
    ((after choices).state.serialTimeout.active ≠ 0 ∧
      (after choices).state.serialTimeout.interval = 100) ∧
    ∀ more : Choices,
      (after choices).state.serialRxBuffer.contents ≠ [] →
      100 < (after choices).state.silence.toNat →
      (after choices).state.usartToUsbBuffer.contents.length + 2 +
        (after choices).state.serialRxBuffer.contents.length ≤ 128 →
      (∀ entry, .call entry ∉ more) →
      Meets silent
        (firmware.run (.call .service :: more) (.start (after choices).state)).history →
      (firmware.run (.call .service :: more) (.start (after choices).state)).idle = true →
      let served := (firmware.run (.call .service :: more) (.start (after choices).state)).state
      served.serialRxBuffer.contents = [] ∧
        served.usartToUsbBuffer.contents =
          (after choices).state.usartToUsbBuffer.contents ++
            serialUsartData ::
              BitVec.ofNat 8 (after choices).state.serialRxBuffer.contents.length ::
              (after choices).state.serialRxBuffer.contents := by
  have timed := timed_of_idle idle
  refine ⟨⟨timed.active rfl, timed.interval⟩, ?_⟩
  intro more waiting late room alone undisturbed finished served
  let called : Config Point Device Interrupt Call :=
    firmware.advance (.start (after choices).state) (.call .service)
  have ensured : silence.Ensures _ called.code called.state called.history :=
    appService_moved timed.interval (timed.active rfl) waiting room _ _ ⟨rfl, late, rfl, rfl⟩
  have moved := ensured.finished alone undisturbed finished
  exact ⟨moved.bytes, moved.queued⟩

/-- Two bytes, and then 101 ms without a call. -/
def twoBytesAndSilence : Choices :=
  [.interrupt (.usart 0x41 true), .interrupt (.usart 0x42 true)] ++ .replicate 101 (.interrupt .tick)

def serviceWithTick : Choices :=
  .replicate 3 .main ++ [.interrupt .tick] ++ .replicate 12 .main

theorem waiting_bytes_relayed_twoBytes :
    (after twoBytesAndSilence).state.serialRxBuffer.contents = [0x41, 0x42] ∧
      (firmware.run (.call .service :: serviceWithTick)
        (.start (after twoBytesAndSilence).state)).state.serialRxBuffer.contents = [] := by
  refine ⟨by decide +kernel, ?_⟩
  have alone : ∀ entry, .call entry ∉ serviceWithTick := by
    intro entry
    simp [serviceWithTick]
  exact ((waiting_bytes_relayed twoBytesAndSilence (by decide +kernel)).2 serviceWithTick
    (by decide +kernel) (by decide +kernel) (by decide +kernel) alone (by decide +kernel)
    (by decide +kernel)).1

end MiniMiner.XilinxFpgaProg
