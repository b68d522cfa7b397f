import MiniMiner.XilinxFpgaProg.Footprint

/-! The parser as a function of the received bytes. The interrupts touch nothing
that `serial.c` uses, so between calls the statics, the peripherals and the record
of what has been done are the fold of one function over all received bytes. -/

set_option autoImplicit false

namespace MiniMiner.XilinxFpgaProg

open LittleEndian Preemption Preemption.Program

/-- The record of a run: the bytes handed to `serialAddByte`; how many there were
at each start of `serialProcess`; the bytes queued as answers; the count and the
frame size that each frame has left; and the removals from an empty ring. -/
structure Log where
  arrived : List Byte
  processed : List Nat
  answers : List Byte
  left : List (BitVec 16 × Byte)
  underflows : Nat

def Log.empty : Log := ⟨[], [], [], [], 0⟩

def Log.arrive (log : Log) (byte : Byte) : Log :=
  { log with arrived := log.arrived ++ [byte] }

def Log.begin (log : Log) : Log :=
  { log with processed := log.processed ++ [log.arrived.length] }

def Log.draw (log : Log) (ring : RingBuffer 128) : Log :=
  { log with underflows := log.underflows + if ring.count = 0 then 1 else 0 }

def Log.answer (log : Log) (byte : Byte) : Log :=
  { log with answers := log.answers ++ [byte] }

def Log.leave (log : Log) (serial : Serial) : Log :=
  { log with left := log.left ++ [(serial.buffer.count, serial.frameSize)] }

/-- The byte written to the transmit ring by a statement. -/
def writtenByte (transition : Transition Point Device Interrupt Call) : Byte :=
  transition.source.usartToUsbBuffer.stored transition.target.usartToUsbBuffer

def log : Past → Log
  | [] => .empty
  | transition :: earlier =>
      match transition.label with
      | .main (.addByte byte) => (log earlier).arrive byte
      | .main .removeCmd => (log earlier).begin.draw transition.source.serial.buffer
      | .main .removeSize => (log earlier).draw transition.source.serial.buffer
      | .main .removeSelect => (log earlier).draw transition.source.serial.buffer
      | .main (.payload _) => (log earlier).draw transition.source.serial.buffer
      | .main .verdict =>
          ((log earlier).leave transition.source.serial).answer (writtenByte transition)
      | .main .zero => (log earlier).answer (writtenByte transition)
      | _ => log earlier

/-- The bytes received by the calls of `appUsbDataReceived`. -/
def received : Past → List Received
  | [] => []
  | transition :: earlier =>
      match transition.label with
      | .call (.usbData more) => received earlier ++ more
      | _ => received earlier

structure View where
  log : Log
  serial : Serial
  spi : List Byte
  usart : List Byte

def view (device : Device) (history : Past) : View :=
  { log := log history, serial := device.serial, spi := device.spi, usart := device.usart }

namespace View

def add (view : View) (byte : Byte) : View :=
  { view with
    log := view.log.arrive byte
    serial := (serialAddByte byte view.serial).2 }

def draw (view : View) (sink : Sink) : View :=
  { log := view.log.draw view.serial.buffer
    serial := view.serial.remove
    spi := if sink = .spi then view.spi ++ [view.serial.buffer.peek] else view.spi
    usart := if sink = .usart then view.usart ++ [view.serial.buffer.peek] else view.usart }

def take (view : View) (sink : Sink) : Nat → View
  | 0 => view
  | times + 1 => (view.take sink times).draw sink

def answer (view : View) (accepted : Bool) : View :=
  { view with
    log := ((view.log.leave view.serial).answer (if accepted then serialAck else serialNak)).answer
      0 }

end View

/-- Where a frame's payload goes, how much of it is removed, and the verdict. -/
def sinkOf (cmd : Byte) : Sink :=
  if cmd = serialDownloadData ∨ cmd = serialSpiData then .spi
  else if cmd = serialUsartData then .usart
  else .nowhere

def consumed (cmd size : Byte) : Nat :=
  if cmd = serialStartConfig then 0
  else if cmd = serialUseSpi then 0
  else if cmd = serialSpiSelect then 1
  else if cmd = serialUseUsart then 0
  else if cmd = serialFpgaReset then 0
  else if cmd = serialFpgaStart then 0
  else size.toNat

def accepts (pins : Pins) (cmd : Byte) : Bool :=
  if cmd = serialStartConfig then waitInitB pins.initB 1000 0 ≠ 0
  else if cmd = serialDownloadData then pins.done || pins.initB 0
  else cmd ∈ [serialUseSpi, serialSpiData, serialSpiSelect, serialUseUsart, serialUsartData,
    serialFpgaReset, serialFpgaStart]

namespace View

/-- `serialProcess`. -/
def execute (view : View) : View :=
  let begun := { view with log := view.log.begin }
  let cmd := view.serial.buffer.peek
  let size := view.serial.buffer.remove.peek
  (begun.take .nowhere 2).take (sinkOf cmd) (consumed cmd size)

def process (view : View) (pins : Pins) : View :=
  view.execute.answer (accepts pins view.serial.buffer.peek)

def receive (view : View) (received : Received) : View :=
  if (serialAddByte received.byte view.serial).1 then
    (view.add received.byte).process received.pins
  else view.add received.byte

end View

def parsing : Setting Point Device Interrupt Call where
  machine := firmware
  allowed := fun _ _ _ => True
  always := fun _ _ => True

def At (current : View) (fed : List Received) (device : Device) (history : Past) : Prop :=
  view device history = current ∧ received history = fed

theorem serial_handled {source : Interrupt} {before after : Device}
    (handled : handler source before = some after) :
    after.serial = before.serial ∧ after.spi = before.spi ∧ after.usart = before.usart := by
  cases source with
  | tick =>
      cases handled
      exact ⟨rfl, rfl, rfl⟩
  | usart byte configured =>
      cases handled
      cases configured <;> exact ⟨rfl, rfl, rfl⟩

variable {current : View} {fed : List Received}

theorem steady_at : parsing.Steady (At current fed) where
  stable := by
    intro source before after history handled _ standing
    obtain ⟨serial, spi, usart⟩ := serial_handled handled
    refine ⟨?_, standing.2⟩
    rw [← standing.1]
    unfold view
    rw [serial, spi, usart]
    rfl
  always := fun _ _ _ => trivial

def Returned {Value : Type} (current : View) (fed : List Received) (value returned : Value)
    (device : Device) (history : Past) : Prop :=
  At current fed device history ∧ returned = value

theorem steady_returned {Value : Type} (value returned : Value) :
    parsing.Steady (Returned current fed value returned) :=
  steady_at.and fun _ _ _ _ _ _ same => same

theorem pure_triple {Value : Type} (value : Value) :
    parsing.Triple (At current fed) (pure value) (Returned current fed value) :=
  (Setting.Triple.done (steady_returned value value)).conseq (fun _ _ standing => ⟨standing, rfl⟩)
    fun _ _ _ returned => returned

theorem statement_triple {Value : Type} {point : Point} {effect : Device → Device}
    {result : Device → Value} {value : Value} (next : View)
    (step : ∀ device history, view device history = current →
      view (effect device) (⟨.main point, device, effect device⟩ :: history) = next ∧
        result device = value) :
    parsing.Triple (At current fed)
      (.statement point effect fun device => .done (result device)) (Returned next fed value) := by
  refine .statement steady_at (steady_returned value) fun device history standing _ => ?_
  obtain ⟨reached, same⟩ := step device history standing.1
  exact ⟨⟨reached, standing.2⟩, same⟩

theorem returned_seq {Value Result : Type} {pre : Device → Past → Prop} {value : Value}
    {program : Firmware Value} {continuation : Value → Firmware Result}
    {post : Result → Device → Past → Prop}
    (first : parsing.Triple pre program (Returned current fed value))
    (rest : parsing.Triple (At current fed) (continuation value) post) :
    parsing.Triple pre (program >>= continuation) post := by
  refine first.seq fun returned device history both => ?_
  obtain ⟨standing, rfl⟩ := both
  exact rest device history standing

theorem assign_triple {point : Point} {effect : Device → Device} (next : View)
    (step : ∀ device history, view device history = current →
      view (effect device) (⟨.main point, device, effect device⟩ :: history) = next) :
    parsing.Triple (At current fed) (assign point effect) fun _ => At next fed := by
  refine .assign steady_at steady_at fun device history standing _ => ?_
  exact ⟨step device history standing.1, standing.2⟩

/-- The statement writes to port registers only. -/
def PortsOnly (effect : Device → Device) : Prop :=
  ∀ device, (effect device).serial = device.serial ∧ (effect device).spi = device.spi ∧
    (effect device).usart = device.usart

theorem setPorts_triple {effect : Device → Device} (ports : PortsOnly effect) :
    parsing.Triple (At current fed) (setPorts effect) fun _ => At current fed := by
  refine assign_triple current fun device history standing => ?_
  obtain ⟨serial, spi, usart⟩ := ports device
  rw [← standing]
  unfold view
  rw [serial, spi, usart]
  rfl

theorem removeByte_triple {point : Point} (counted : ∀ before after history,
      log (⟨.main point, before, after⟩ :: history) = (log history).draw before.serial.buffer) :
    parsing.Triple (At current fed) (removeByte point)
      (Returned (current.draw .nowhere) fed current.serial.buffer.peek) := by
  refine statement_triple _ fun device history standing => ?_
  rw [← standing]
  refine ⟨?_, rfl⟩
  unfold view
  rw [counted]
  rfl

theorem takePayload_triple (sink : Sink) (size : Byte) :
    parsing.Triple (At current fed) (takePayload sink size)
      fun _ => At (current.take sink size.toNat) fed := by
  refine Setting.Triple.eachRange (fun index => At (current.take sink index) fed) steady_at ?_
  intro index _
  refine assign_triple _ fun device history standing => ?_
  rw [View.take, ← standing]
  cases sink <;> rfl

theorem toggleLed_triple (led : Byte) :
    parsing.Triple (At current fed) (toggleLed led) fun _ => At current fed := by
  refine setPorts_triple ?_
  exact fun _ => ⟨rfl, rfl, rfl⟩

theorem pulse_triple (line : Byte) :
    parsing.Triple (At current fed) (pulse line) fun _ => At current fed := by
  refine .seq (setPorts_triple ?_) fun _ => setPorts_triple ?_
  · exact fun _ => ⟨rfl, rfl, rfl⟩
  · exact fun _ => ⟨rfl, rfl, rfl⟩

theorem xilinxSetupConfiguration_triple (pins : Pins) :
    parsing.Triple (At current fed) (xilinxSetupConfiguration pins)
      (Returned current fed (waitInitB pins.initB 1000 0 ≠ 0)) := by
  refine .seq (setPorts_triple ?_) fun _ => .seq (setPorts_triple ?_) fun _ => pure_triple _
  · exact fun _ => ⟨rfl, rfl, rfl⟩
  · exact fun _ => ⟨rfl, rfl, rfl⟩

theorem downloadData_triple (pins : Pins) (size : Byte) :
    parsing.Triple (At current fed) (downloadData pins size)
      (Returned (current.take .spi size.toNat) fed (pins.done || pins.initB 0)) := by
  refine (toggleLed_triple led1).seq fun _ => (takePayload_triple .spi size).seq fun _ => ?_
  cases pins.done with
  | true => exact pure_triple true
  | false =>
      cases pins.initB 0 with
      | true => exact pure_triple true
      | false => exact pure_triple false

theorem spiSelect_triple :
    parsing.Triple (At current fed) spiSelect (Returned (current.take .nowhere 1) fed true) := by
  refine (removeByte_triple fun _ _ _ => rfl).seq fun prop => ?_
  refine .seq (Setting.Triple.conseq (setPorts_triple ?_) (fun _ _ returned => returned.1)
    fun _ _ _ standing => standing) fun _ => pure_triple true
  exact fun _ => ⟨rfl, rfl, rfl⟩

theorem execute_triple (pins : Pins) (cmd size : Byte) :
    parsing.Triple (At current fed) (execute pins cmd size)
      (Returned (current.take (sinkOf cmd) (consumed cmd size)) fed (accepts pins cmd)) := by
  have ported {effect : Device → Device} (ports : PortsOnly effect) :
      parsing.Triple (At current fed) (setPorts effect >>= fun _ => pure true)
        (Returned current fed true) :=
    (setPorts_triple ports).seq fun _ => pure_triple true
  have taken (sink : Sink) (value : Bool) :
      parsing.Triple (At current fed) (takePayload sink size >>= fun _ => pure value)
        (Returned (current.take sink size.toNat) fed value) :=
    (takePayload_triple sink size).seq fun _ => pure_triple value
  have pulsed (line : Byte) :
      parsing.Triple (At current fed) (pulse line >>= fun _ => pure true)
        (Returned current fed true) :=
    (pulse_triple line).seq fun _ => pure_triple true
  unfold execute
  refine .ite (fun same => ?_) fun _ => ?_
  · subst same
    exact xilinxSetupConfiguration_triple pins
  refine .ite (fun same => ?_) fun _ => ?_
  · subst same
    exact downloadData_triple pins size
  refine .ite (fun same => ?_) fun _ => ?_
  · subst same
    exact ported fun _ => ⟨rfl, rfl, rfl⟩
  refine .ite (fun same => ?_) fun _ => ?_
  · subst same
    exact (toggleLed_triple led2).seq fun _ => taken .spi true
  refine .ite (fun same => ?_) fun _ => ?_
  · subst same
    exact spiSelect_triple
  refine .ite (fun same => ?_) fun _ => ?_
  · subst same
    exact ported fun _ => ⟨rfl, rfl, rfl⟩
  refine .ite (fun same => ?_) fun _ => ?_
  · subst same
    exact taken .usart true
  refine .ite (fun same => ?_) fun _ => ?_
  · subst same
    exact pulsed (bit 1)
  refine .ite (fun same => ?_) fun _ => ?_
  · subst same
    exact pulsed (bit 2)
  have sink : sinkOf cmd = .nowhere := by simp [sinkOf, *]
  have whole : consumed cmd size = size.toNat := by simp [consumed, *]
  have refused : accepts pins cmd = false := by simp [accepts, *]
  rw [sink, whole, refused]
  exact taken .nowhere false

theorem serialProcess_triple (pins : Pins) :
    parsing.Triple (At current fed) (serialProcess pins)
      (Returned current.execute fed (accepts pins current.serial.buffer.peek)) := by
  have begun : parsing.Triple (At current fed) (removeByte .removeCmd)
      (Returned ({ current with log := current.log.begin }.draw .nowhere) fed
        current.serial.buffer.peek) := by
    refine statement_triple _ fun device history standing => ?_
    rw [← standing]
    exact ⟨rfl, rfl⟩
  refine returned_seq begun (returned_seq (removeByte_triple fun _ _ _ => rfl) ?_)
  exact execute_triple pins _ _

theorem queue_triple {point : Point} {byte : Byte} (next : Log → Log)
    (recorded : ∀ before after history, before.serial = current.serial →
      before.usartToUsbBuffer.stored after.usartToUsbBuffer = byte →
      log (⟨.main point, before, after⟩ :: history) = next (log history)) :
    parsing.Triple (At current fed) (queue point byte)
      fun _ => At { current with log := next current.log } fed := by
  refine assign_triple _ fun device history standing => ?_
  have written := device.usartToUsbBuffer.stored_insert byte
  have serial : device.serial = current.serial := congrArg View.serial standing
  unfold view
  rw [recorded device _ history serial written, ← standing]
  rfl

theorem receiveByte_triple (received : Received) :
    parsing.Triple (At current fed) (receiveByte received)
      fun _ => At (current.receive received) fed := by
  have added : parsing.Triple (At current fed)
      (.statement (.addByte received.byte)
        (fun device =>
          { device with serial := (serialAddByte received.byte device.serial).2 })
        fun device => .done (serialAddByte received.byte device.serial).1)
      (Returned (current.add received.byte) fed
        (serialAddByte received.byte current.serial).1) := by
    refine statement_triple _ fun device history standing => ?_
    rw [← standing]
    exact ⟨rfl, rfl⟩
  refine returned_seq added (.onlyIf steady_at (fun complete => ?_) fun pending => ?_)
  · unfold View.receive
    rw [if_pos complete]
    refine returned_seq (serialProcess_triple received.pins) ?_
    refine .seq (queue_triple (fun log => (log.leave _).answer _) ?_) fun _ =>
      queue_triple (fun log => log.answer 0) ?_
    · intro before after history serial written
      show ((log history).leave before.serial).answer
        (before.usartToUsbBuffer.stored after.usartToUsbBuffer) = _
      rw [serial, written]
    · intro before after history _ written
      show (log history).answer (before.usartToUsbBuffer.stored after.usartToUsbBuffer) = _
      rw [written]
  · unfold View.receive
    rw [if_neg pending]
    exact fun _ _ standing => standing

theorem appUsbDataReceived_triple (more : List Received) :
    parsing.Triple (At current fed) (appUsbDataReceived more)
      fun _ => At (more.foldl View.receive current) fed := by
  induction more generalizing current with
  | nil => exact .done steady_at
  | cons received rest ih =>
      exact (receiveByte_triple received).seq fun _ => ih

theorem keeps_at {point : Point} {before after : Device}
    (unlogged : ∀ history, log (⟨.main point, before, after⟩ :: history) = log history)
    (serial : after.serial = before.serial) (spi : after.spi = before.spi)
    (usart : after.usart = before.usart) :
    parsing.Keeps (At current fed) point before after := by
  intro history _ standing
  refine ⟨?_, standing.2⟩
  rw [← standing.1]
  unfold view
  rw [unlogged, serial, spi, usart]

theorem flushReplies_at (results : List Bool) :
    (flushReplies results).Within (parsing.Keeps (At current fed)) :=
  flushReplies_within
    { flushCount := fun _ => keeps_at (fun _ => rfl) rfl rfl rfl
      flushTimer := fun _ _ => keeps_at (fun _ => rfl) rfl rfl rfl
      flushRestart := fun _ _ => keeps_at (fun _ => rfl) rfl rfl rfl
      sendByte := fun _ _ => keeps_at (fun _ => rfl) rfl rfl rfl
      removeSent := fun _ _ => keeps_at (fun _ => rfl) rfl rfl rfl } results

theorem appService_at : appService.Within (parsing.Keeps (At current fed)) := by
  have timeout : CoversTimeout (parsing.Keeps (At current fed)) := by
    intro point device timer timing
    refine keeps_at (fun history => ?_) rfl rfl rfl
    cases point <;> first | rfl | cases timing
  refine appService_within timeout ?_
  exact
    { relayCheck := fun _ => keeps_at (fun _ => rfl) rfl rfl rfl
      relayCmd := fun _ _ => keeps_at (fun _ => rfl) rfl rfl rfl
      relayCount := fun _ _ => keeps_at (fun _ => rfl) rfl rfl rfl
      relayTake := fun _ _ => keeps_at (fun _ => rfl) rfl rfl rfl
      relayByte := fun _ _ => keeps_at (fun _ => rfl) rfl rfl rfl }

def View.start (device : Device) : View := view device []

def Folded (device : Device) (history : Past) : Prop :=
  view device history = (received history).foldl View.receive (.start boot)

theorem folded_of_at {device : Device} {history : Past}
    (standing : At (fed.foldl View.receive (.start boot)) fed device history) :
    Folded device history := by
  unfold Folded
  rw [standing.1, standing.2]

theorem steady_folded : parsing.Steady Folded where
  stable := fun source before after history handled admitted folded =>
    folded_of_at (steady_at.stable source before after history handled admitted ⟨folded, rfl⟩)
  always := fun _ _ _ => trivial

theorem calls_folded (entry : Call) (device : Device) (history : Past)
    (folded : Folded device history) :
    parsing.Ensures (fun _ => Folded) (body entry) device
      (⟨.call entry, device, device⟩ :: history) := by
  cases entry with
  | usbData more =>
      have ensured := appUsbDataReceived_triple more device
        (⟨.call (.usbData more), device, device⟩ :: history) ⟨folded, rfl⟩
      rw [← List.foldl_append] at ensured
      exact ensured.weaken fun _ _ _ standing => folded_of_at standing
  | flush results =>
      have kept := (Setting.Triple.kept steady_at (flushReplies_at results)) device
        (⟨.call (.flush results), device, device⟩ :: history) ⟨folded, rfl⟩
      exact kept.weaken fun _ _ _ standing => folded_of_at standing
  | service =>
      have kept := (Setting.Triple.kept steady_at appService_at) device
        (⟨.call .service, device, device⟩ :: history) ⟨folded, rfl⟩
      exact kept.weaken fun _ _ _ standing => folded_of_at standing

/-- In every run, whenever no call is being executed, the parser has done what the
bytes received so far ask for, whatever interrupts and other calls came between. -/
theorem view_after {choices : Choices} (idle : (after choices).idle = true) :
    view (after choices).state (after choices).history =
      (received (after choices).history).foldl View.receive (.start boot) :=
  parsing.run_between steady_folded (rfl : Folded boot [])
    (fun entry device history folded _ => calls_folded entry device history folded) choices
    (Meets.trivial _) idle

end MiniMiner.XilinxFpgaProg
